import GattRpc.Proofs.Table

/-! # Registered callbacks are accounted for

Whatever is done with a correlator, a callback that was registered is still outstanding, or one
operation has ended its request: then it was told one outcome of that request, or it was discarded
uncalled (`Correlator.conserves`). Each operation is shown to move requests out of the table only
with an effect on their callbacks (`Correlator.use_moves`), and from that a sequence of operations
(`Correlator.moves`). -/

namespace GattRpc

open scoped List

namespace Correlator

/-- An operation of a correlator. -/
inductive Use
  | prepare (method : String) (params : Json)
  | register (now : Nat) (request : Request) (callback : Option Callback)
  | dispatch (r : Response)
  | expire (now timeout : Nat)
  | cancelAll (reason : CloseReason) (drain : Drain)

/-- What happens to a callback when its request is no longer outstanding. -/
inductive Effect
  | told (s : Settlement)
  | discarded (callback : Callback)

def Effect.callback : Effect → Callback
  | told s => s.callback
  | discarded callback => callback

/-- Carries out an operation, and gives what happens to callbacks. -/
def use (c : Correlator) : Use → Correlator × List Effect
  | .prepare method params => ((c.prepare method params).1, [])
  | .register now request callback =>
    ((c.register now request callback).1,
      (c.register now request callback).2.toList.map .discarded)
  | .dispatch r => ((c.dispatch r).1, (c.dispatch r).2.toList.map .told)
  | .expire now timeout => ((c.expire now timeout).1, (c.expire now timeout).2.map .told)
  | .cancelAll reason drain =>
    let (c, release) := c.cancelAll reason drain
    (c, release.settled.map .told ++ release.discarded.map .discarded)

def after (c : Correlator) (us : List Use) : Correlator := us.foldl (fun c u => (c.use u).1) c

/-- All that happens to callbacks, each time with the operation that does it. -/
def log (c : Correlator) : List Use → List (Use × Effect)
  | [] => []
  | u :: us => (c.use u).2.map (u, ·) ++ (c.use u).1.log us

/-- What happens to the callbacks of one token. -/
def logOf (c : Correlator) (us : List Use) (token : Nat) : List (Use × Effect) :=
  (c.log us).filter fun x => x.2.callback.token = token

/-- The request that an operation registers a callback for. -/
def Use.registers : Use → List Pending
  | .register now request (some callback) => [⟨request, callback, now⟩]
  | _ => []

def registered (us : List Use) : List Pending := us.flatMap Use.registers

/-- How an operation ends an outstanding request. -/
inductive Ends (policy : CancelPolicy) (p : Pending) : Use → Effect → Prop
  | answered {r : Response} (own : r.id = p.id) :
    Ends policy p (.dispatch r) (.told (p.settle (.answered r)))
  | timedOut {now timeout : Nat} (old : timeout ≤ p.age now) :
    Ends policy p (.expire now timeout) (.told (p.settle (.failed (.timedOut p.id))))
  | cancelled {reason : CloseReason} {drain : Drain} (notify : policy = .notify) :
    Ends policy p (.cancelAll reason drain) (.told (p.settle (.failed (.cancelled reason))))
  | dropped {reason : CloseReason} {drain : Drain} (drop : policy = .drop) :
    Ends policy p (.cancelAll reason drain) (.discarded p.callback)
  | displaced {now : Nat} {request : Request} {callback : Callback} (reused : request.id = p.id) :
    Ends policy p (.register now request (some callback)) (.discarded p.callback)

theorem Ends.callback {policy : CancelPolicy} {p : Pending} {u : Use} {x : Effect}
    (e : Ends policy p u x) : x.callback = p.callback := by
  cases e <;> rfl

/-- The only place that a request is found in. -/
inductive Fate (c : Correlator) (us : List Use) (p : Pending) : Prop
  /-- It is outstanding, and nothing happened to its callback. -/
  | outstanding (here : p ∈ (c.after us).outstanding) (untold : c.logOf us p.callback.token = [])
  /-- An operation ended it, and nothing else happened to its callback. -/
  | ended {before later : List Use} {u : Use} {x : Effect} (at_ : us = before ++ u :: later)
    (here : p ∈ (c.after before).outstanding) (ends : Ends c.policy p u x)
    (once : c.logOf us p.callback.token = [(u, x)]) (gone : p ∉ (c.after us).outstanding)

section Moves

variable (c : Correlator) (us vs : List Use) (u : Use)

@[simp] theorem after_nil : c.after [] = c := rfl

@[simp] theorem after_cons : c.after (u :: us) = (c.use u).1.after us := rfl

@[simp] theorem use_policy : (c.use u).1.policy = c.policy := by
  cases u with
  | prepare => rfl
  | register => exact register_policy
  | dispatch r =>
    simp only [use, dispatch]
    split <;> rfl
  | expire => rfl
  | cancelAll reason drain =>
    simp only [use, (cancelAll_eq reason drain).1]
    rfl

/-- What is found under an id, and all the rest. -/
theorem perm_of_find? {id : RequestId} {p : Pending} (found : c.find? id = some p) :
    c.outstanding.Perm ((c.outstanding.filter fun q => q.id ≠ id) ++ [p]) := by
  have split := List.filter_append_perm (fun q => decide (q.id ≠ id)) c.outstanding
  simp only [ne_eq, decide_not, Bool.not_not, filter_of_find? found] at split
  simpa using split.symm

/-- An operation takes requests out of the table only as it ends them. -/
theorem use_moves : ∃ ended : List (Pending × Effect),
    (u.registers ++ c.outstanding).Perm ((c.use u).1.outstanding ++ ended.map Prod.fst) ∧
      ended.map Prod.snd = (c.use u).2 ∧
      ∀ x ∈ ended, x.1 ∈ c.outstanding ∧ Ends c.policy x.1 u x.2 := by
  cases u with
  | prepare method params => exact ⟨[], by simp [Use.registers, use, prepare], rfl, by simp⟩
  | register now request callback =>
    cases callback with
    | none => exact ⟨[], by simp [Use.registers, use, register], rfl, by simp⟩
    | some callback =>
      cases found : c.find? request.id with
      | none =>
        refine ⟨[], ?_, by simp [use, register, found], by simp⟩
        simpa [Use.registers, use] using (register_fresh now (some callback)
          (find?_eq_none.1 found)).2.symm
      | some q =>
        obtain ⟨hq, same⟩ := mem_of_find? found
        refine ⟨[(q, .discarded q.callback)], ?_, by simp [use, register, found], ?_⟩
        · have inserted := Pending.insert_perm_filter (p := ⟨request, callback, now⟩) c.ascending
          exact ((c.perm_of_find? found).cons _).trans (inserted.symm.append_right [q])
        · simpa using ⟨hq, .displaced same.symm⟩
  | dispatch r =>
    cases found : c.find? r.id with
    | none =>
      exact ⟨[], by simp [Use.registers, use, dispatch, found], by simp [use, dispatch, found],
        by simp⟩
    | some p =>
      obtain ⟨hp, same⟩ := mem_of_find? found
      refine ⟨[(p, .told (p.settle (.answered r)))], ?_, by simp [use, dispatch, found], ?_⟩
      · simpa [Use.registers, use, dispatch, found] using c.perm_of_find? found
      · simpa using ⟨hp, .answered same.symm⟩
  | expire now timeout =>
    refine ⟨(c.outstanding.filter fun p => timeout ≤ p.age now).map fun p =>
      (p, .told (p.settle (.failed (.timedOut p.id)))), ?_, by simp [use, expire], ?_⟩
    · have split := List.filter_append_perm (fun p => !decide (timeout ≤ p.age now)) c.outstanding
      simpa [Use.registers, use, expire, Function.comp_def] using split.symm
    · simp only [List.mem_map, List.mem_filter, decide_eq_true_eq]
      rintro _ ⟨p, ⟨hp, old⟩, rfl⟩
      exact ⟨hp, .timedOut old⟩
  | cancelAll reason drain =>
    have all := (drain.perm c.outstanding).symm
    obtain ⟨-, ⟨policy, discarded, settled⟩ | ⟨policy, settled, discarded⟩⟩ :=
      c.cancelAll_eq reason drain
    · refine ⟨(drain.order c.outstanding).map fun p =>
          (p, .told (p.settle (.failed (.cancelled reason)))),
        by simpa [Use.registers, use, Function.comp_def] using all,
        by simp [use, discarded, settled], ?_⟩
      simpa [Drain.mem_order] using fun p hp => ⟨hp, .cancelled policy⟩
    · refine ⟨(drain.order c.outstanding).map fun p => (p, .discarded p.callback),
        by simpa [Use.registers, use, Function.comp_def] using all,
        by simp [use, discarded, settled], ?_⟩
      simpa [Drain.mem_order] using fun p hp => ⟨hp, .dropped policy⟩

/-- Requests that were registered are in the table, or were ended by an operation on it. -/
theorem moves : ∃ ended : List (Pending × Use × Effect),
    (registered us ++ c.outstanding).Perm ((c.after us).outstanding ++ ended.map Prod.fst) ∧
      ended.map Prod.snd = c.log us ∧
      ∀ x ∈ ended, Ends c.policy x.1 x.2.1 x.2.2 ∧
        ∃ before later, us = before ++ x.2.1 :: later ∧ x.1 ∈ (c.after before).outstanding := by
  induction us generalizing c with
  | nil => exact ⟨[], by simp [registered], rfl, by simp⟩
  | cons u us ih =>
    obtain ⟨now, moved, told, ends⟩ := c.use_moves u
    obtain ⟨next, kept, logged, ended⟩ := ih (c.use u).1
    refine ⟨now.map (fun x => (x.1, u, x.2)) ++ next, ?_, ?_, ?_⟩
    · calc registered (u :: us) ++ c.outstanding
        _ = u.registers ++ (registered us ++ c.outstanding) := by simp [registered]
        _ ~ registered us ++ (u.registers ++ c.outstanding) := List.perm_append_comm_assoc ..
        _ ~ registered us ++ (c.use u).1.outstanding ++ now.map Prod.fst := by
          simpa using moved.append_left (registered us)
        _ ~ ((c.use u).1.after us).outstanding ++ next.map Prod.fst ++ now.map Prod.fst :=
          kept.append_right _
        _ ~ _ := by
          simpa [Function.comp_def] using List.perm_append_comm.append_left _
    · simp [log, ← told, ← logged, Function.comp_def]
    · intro x hx
      rcases List.mem_append.1 hx with hx | hx
      · obtain ⟨y, hy, rfl⟩ := List.mem_map.1 hx
        obtain ⟨here, e⟩ := ends y hy
        exact ⟨e, [], us, rfl, here⟩
      · obtain ⟨e, before, later, rfl, here⟩ := ended x hx
        exact ⟨use_policy c u ▸ e, u :: before, later, rfl, here⟩

/-- The callback of a request that was registered once has one fate. -/
theorem fate_of_once {p : Pending}
    (once : (registered us ++ c.outstanding).filter
      (fun q => q.callback.token = p.callback.token) = [p]) : Fate c us p := by
  obtain ⟨ended, moved, logged, ends⟩ := c.moves us
  have log : c.logOf us p.callback.token =
      (ended.filter fun x => x.1.callback.token = p.callback.token).map Prod.snd := by
    rw [logOf, ← logged, List.filter_map]
    refine congrArg _ (List.filter_congr fun x hx => ?_)
    simp [(ends x hx).1.callback]
  have places := moved.symm.filter fun q => q.callback.token = p.callback.token
  rw [once, List.perm_singleton, List.filter_append, List.filter_map,
    List.append_eq_singleton_iff] at places
  obtain ⟨kept, gone⟩ | ⟨gone, kept⟩ := places.symm
  · have here : p ∈ (c.after us).outstanding.filter
        fun q => q.callback.token = p.callback.token := by rw [kept]; simp
    refine .outstanding (List.mem_filter.1 here).1 ?_
    rw [log]
    simpa [Function.comp_def] using gone
  · obtain ⟨⟨q, u, x⟩, one, rfl⟩ := List.map_eq_singleton_iff.1 kept
    obtain ⟨e, before, later, at_, here⟩ :=
      ends (q, u, x) (List.mem_filter.1 (by rw [one]; simp)).1
    refine .ended at_ here e ?_ fun still => ?_
    · rw [log]
      simpa [Function.comp_def] using congrArg (List.map Prod.snd) one
    · exact List.filter_eq_nil_iff.1 gone q still (by simp)

end Moves

end Correlator

section Calm

/-! Nothing looks at whether a callback panics, but for the delivery of a response. -/

def Callback.calm (callback : Callback) : Callback := { callback with panics := false }

def Settlement.calm (s : Settlement) : Settlement := { s with callback := s.callback.calm }

def Pending.calm (p : Pending) : Pending := { p with callback := p.callback.calm }

namespace Correlator

def Effect.calm : Effect → Effect
  | told s => .told s.calm
  | discarded callback => .discarded callback.calm

@[simp] theorem Effect.calm_told (p : Pending) (o : Outcome) :
    (told (p.settle o)).calm = .told (p.calm.settle o) := rfl

@[simp] theorem Effect.calm_discarded (callback : Callback) :
    (discarded callback).calm = .discarded callback.calm := rfl

/-- The operation with a callback that does not panic. -/
def Use.calm : Use → Use
  | .register now request callback => .register now request (callback.map Callback.calm)
  | u => u

/-- The same requests are outstanding, and no callback panics. -/
def calm (c : Correlator) : Correlator :=
  { c with
    outstanding := c.outstanding.map Pending.calm
    ascending := List.pairwise_map.2 c.ascending }

variable {c c' : Correlator}

theorem ext_outstanding (policy : c.policy = c'.policy) (nextId : c.nextId = c'.nextId)
    (outstanding : c.outstanding = c'.outstanding) : c = c' := by
  obtain ⟨_, _, _, _⟩ := c
  obtain ⟨_, _, _, _⟩ := c'
  cases policy
  cases nextId
  cases outstanding
  rfl

theorem calm_filter {keep : Pending → Bool} (blind : ∀ p, keep p.calm = keep p) :
    c.calm.filter keep = (c.filter keep).calm := by
  refine ext_outstanding rfl rfl ?_
  simp [calm, List.filter_map, Function.comp_def, blind]

theorem calm_find? (id : RequestId) : c.calm.find? id = (c.find? id).map Pending.calm := by
  simp only [find?, calm, List.find?_map]
  rfl

theorem calm_insert (p : Pending) : c.calm.insert p.calm = (c.insert p).calm := by
  refine ext_outstanding rfl rfl ?_
  change p.calm.insert (c.outstanding.map .calm) = (p.insert c.outstanding).map .calm
  induction c.outstanding with
  | nil => rfl
  | cons q t ih =>
    rw [List.map_cons, Pending.insert, Pending.insert, apply_ite (List.map _),
      apply_ite (List.map _), ih]
    rfl

theorem use_calm (u : Use) :
    c.calm.use u.calm = ((c.use u).1.calm, (c.use u).2.map Effect.calm) := by
  cases u with
  | prepare => rfl
  | register now request callback =>
    cases callback with
    | none => rfl
    | some callback =>
      have inserted := c.calm_insert ⟨request, callback, now⟩
      have displaced := c.calm_find? request.id
      simp only [use, Use.calm, Option.map_some, register, displaced]
      refine Prod.ext inserted ?_
      cases c.find? request.id <;> rfl
  | dispatch r =>
    simp only [use, Use.calm, dispatch, c.calm_find? r.id]
    cases c.find? r.id with
    | none => rfl
    | some p => exact Prod.ext (calm_filter fun _ => rfl) rfl
  | expire now timeout =>
    refine Prod.ext (calm_filter fun _ => rfl) ?_
    simp only [use, Use.calm, expire, calm, List.filter_map, List.map_map, Function.comp_def]
    rfl
  | cancelAll reason drain =>
    have order := drain.keyed (f := Pending.calm) (fun _ => rfl) c.outstanding
    cases policy : c.policy
    all_goals
      simp only [use, Use.calm, cancelAll, calm, policy, order, Pending.invoke_fst, List.map_append,
        List.map_map, Function.comp_def, Effect.calm_told, Effect.calm_discarded]
      rfl

theorem after_calm (us : List Use) : c.calm.after (us.map Use.calm) = (c.after us).calm := by
  induction us generalizing c with
  | nil => rfl
  | cons u us ih => rw [List.map_cons, after_cons, use_calm, ih, after_cons]

theorem log_calm (us : List Use) :
    c.calm.log (us.map Use.calm) = (c.log us).map (Prod.map Use.calm Effect.calm) := by
  induction us generalizing c with
  | nil => rfl
  | cons u us ih =>
    rw [List.map_cons, log, use_calm, ih, log]
    simp [Function.comp_def]

end Correlator

end Calm

namespace Correlator

variable {c : Correlator} {r : Response}

theorem delivery_eq : c.delivery r =
    match c.find? r.id with
    | none => .orphan
    | some p => if p.callback.panics then .panicked else .delivered := by
  unfold delivery
  cases c.find? r.id with
  | none => rfl
  | some p => cases panics : p.callback.panics <;> simp [Pending.invoke, panics]

theorem delivery_eq_orphan_iff :
    c.delivery r = .orphan ↔ r.id ∉ c.outstanding.map Pending.id := by
  rw [delivery_eq, List.mem_map]
  cases found : c.find? r.id with
  | none => simpa using find?_eq_none.1 found
  | some p =>
    refine iff_of_false ?_ fun absent => absent ⟨p, mem_of_find? found⟩
    dsimp only
    split <;> nofun

theorem delivery_eq_panicked_iff :
    c.delivery r = .panicked ↔ ∃ p ∈ c.outstanding, p.id = r.id ∧ p.callback.panics := by
  rw [delivery_eq]
  cases found : c.find? r.id with
  | none => simpa using fun p hp same => (find?_eq_none.1 found p hp same).elim
  | some p =>
    obtain ⟨hp, same⟩ := mem_of_find? found
    have only : (∃ q ∈ c.outstanding, q.id = r.id ∧ q.callback.panics) ↔ p.callback.panics := by
      refine ⟨?_, fun panics => ⟨p, hp, same, panics⟩⟩
      rintro ⟨q, hq, same', panics⟩
      exact eq_of_id hq hp (same'.trans same.symm) ▸ panics
    rw [only]
    simp

/-- A correlator that nothing was done with. -/
def fresh (policy : CancelPolicy) : Correlator := { policy }

/-- Where the callbacks are that were registered with a fresh correlator. -/
structure Conserves (policy : CancelPolicy) (us : List Use) : Prop where
  /-- Registrations are in the table, or each accounts for one entry of the log. -/
  partition : ∃ ended : List (Pending × Use × Effect),
    registered us ~ ((fresh policy).after us).outstanding ++ ended.map Prod.fst ∧
      ended.map Prod.snd = (fresh policy).log us ∧
      ∀ x ∈ ended, Ends policy x.1 x.2.1 x.2.2
  /-- A callback that was registered once is outstanding, was told one outcome of its request, or
  was discarded. -/
  fate : ∀ p, (registered us).filter (fun q => q.callback.token = p.callback.token) = [p] →
    Fate (fresh policy) us p
  /-- No id is in the table twice. -/
  ids : (((fresh policy).after us).outstanding.map Pending.id).Nodup
  /-- The callbacks that nothing happened to are counted. -/
  count : ((registered us).map fun p => p.callback.token).Nodup →
    ((fresh policy).after us).count =
      ((registered us).filter fun p =>
        ((fresh policy).logOf us p.callback.token).isEmpty).length
  /-- All that is outstanding can be released. -/
  released : ∀ reason drain,
    (((fresh policy).after us).cancelAll reason drain).2.count = ((fresh policy).after us).count ∧
      (((fresh policy).after us).use (.cancelAll reason drain)).2.length =
        ((fresh policy).after us).count ∧
      (((fresh policy).after us).cancelAll reason drain).1.outstanding = []
  /-- A response is an orphan if its id is not outstanding. -/
  orphan : ∀ r : Response, ((fresh policy).after us).delivery r = .orphan ↔
    r.id ∉ ((fresh policy).after us).outstanding.map Pending.id
  /-- A delivery reports that its callback panicked. -/
  panicked : ∀ r : Response, ((fresh policy).after us).delivery r = .panicked ↔
    ∃ p ∈ ((fresh policy).after us).outstanding, p.id = r.id ∧ p.callback.panics
  /-- Nothing else depends on which callbacks panic. -/
  calm : ∀ us' : List Use, us'.map Use.calm = us.map Use.calm →
    ((fresh policy).after us').calm = ((fresh policy).after us).calm ∧
      ((fresh policy).log us').map (Prod.map Use.calm Effect.calm) =
        ((fresh policy).log us).map (Prod.map Use.calm Effect.calm)

/-- The requests that are outstanding are those that nothing happened to. -/
theorem count_after {policy : CancelPolicy} {us : List Use}
    (once : ((registered us).map fun p => p.callback.token).Nodup) :
    ((fresh policy).after us).count = ((registered us).filter fun p =>
      ((fresh policy).logOf us p.callback.token).isEmpty).length := by
  obtain ⟨ended, moved, logged, ends⟩ := (fresh policy).moves us
  rw [show (fresh policy).outstanding = [] from rfl, List.append_nil] at moved
  have apart := ((moved.map fun p => p.callback.token).nodup_iff).1 once
  rw [List.map_append] at apart
  have kept : ∀ p ∈ ((fresh policy).after us).outstanding,
      ((fresh policy).logOf us p.callback.token).isEmpty := by
    intro p hp
    rw [List.isEmpty_iff, logOf, List.filter_eq_nil_iff, ← logged]
    intro x hx same
    obtain ⟨y, hy, rfl⟩ := List.mem_map.1 hx
    rw [(ends y hy).1.callback, decide_eq_true_eq] at same
    exact (List.nodup_append.1 apart).2.2 _ (List.mem_map_of_mem hp) _
      (List.mem_map_of_mem (List.mem_map_of_mem hy)) same.symm
  have gone : ∀ p ∈ ended.map Prod.fst,
      ¬ ((fresh policy).logOf us p.callback.token).isEmpty := by
    intro p hp
    obtain ⟨x, hx, rfl⟩ := List.mem_map.1 hp
    have told : x.2 ∈ (fresh policy).logOf us x.1.callback.token :=
      List.mem_filter.2 ⟨logged ▸ List.mem_map_of_mem hx, by simp [(ends x hx).1.callback]⟩
    rw [List.isEmpty_iff]
    exact List.ne_nil_of_mem told
  rw [(moved.filter _).length_eq, List.filter_append, List.filter_eq_self.2 kept,
    List.filter_eq_nil_iff.2 gone, List.append_nil, Correlator.count]

/-- A fresh correlator keeps account of the callbacks that are registered. -/
theorem conserves (policy : CancelPolicy) (us : List Use) : Conserves policy us where
  partition := by
    obtain ⟨ended, moved, logged, ends⟩ := (fresh policy).moves us
    exact ⟨ended, by simpa [fresh] using moved, logged, fun x hx => (ends x hx).1⟩
  fate p once := fate_of_once (fresh policy) us (by simpa [fresh] using once)
  ids := List.pairwise_map.2
    (((fresh policy).after us).ascending.imp fun before => UInt64.ne_of_lt before)
  count := count_after
  released reason drain := by
    generalize (fresh policy).after us = c
    refine ⟨cancelAll_count reason drain, ?_, cancelAll_outstanding reason drain⟩
    cases policy : c.policy <;>
      simp [use, cancelAll, policy, Correlator.count, (drain.perm _).length_eq]
  orphan r := delivery_eq_orphan_iff
  panicked r := delivery_eq_panicked_iff
  calm us' alike := by
    refine ⟨?_, ?_⟩
    · rw [← after_calm, ← after_calm, alike]
    · rw [← log_calm, ← log_calm, alike]

end Correlator

end GattRpc
