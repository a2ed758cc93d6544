import Mathlib.Data.List.Basic
import GattRpc.Proofs.Overdue

/-! # Responses in any order

Of several responses with one id the first is delivered, and those after it are orphans. Responses
with different ids have nothing to do with each other. So only the order among the responses of each
id decides what comes of them (`Correlator.confluent`), whichever callbacks panic. -/

namespace GattRpc

open scoped List

/-- The lists hold the same responses of every id, in the same order. -/
def SameById (rs rs' : List Response) : Prop :=
  ∀ id, rs.filter (fun r => r.id = id) = rs'.filter fun r => r.id = id

namespace Correlator

/-- A response that was dispatched, how its delivery went, and what a callback was told. -/
structure Handover where
  response : Response
  delivery : Delivery
  told : Option Settlement
deriving DecidableEq

def handOver (c : Correlator) (r : Response) : Handover := ⟨r, c.delivery r, (c.dispatch r).2⟩

/-- Dispatches responses one after the other. -/
def dispatchAll : Correlator → List Response → Correlator × List Handover
  | c, [] => (c, [])
  | c, r :: rs =>
    let (c', xs) := (c.dispatch r).1.dispatchAll rs
    (c', c.handOver r :: xs)

/-- What is due to a response when some were dispatched before it. -/
inductive Due (c : Correlator) (earlier : List Response) : Handover → Prop
  | delivered {p : Pending} {r : Response} (waits : p ∈ c.outstanding) (own : p.id = r.id)
    (first : r.id ∉ earlier.map Response.id) :
    Due c earlier
      ⟨r, if p.callback.panics then .panicked else .delivered, some (p.settle (.answered r))⟩
  | orphan {r : Response}
    (late : r.id ∉ c.outstanding.map Pending.id ∨ r.id ∈ earlier.map Response.id) :
    Due c earlier ⟨r, .orphan, none⟩

variable {c c' : Correlator} {p : Pending} {r : Response} {rs rs' : List Response}
  {id : RequestId} {xs ys : List Handover} {x : Handover}

/-! ### One response -/

theorem dispatch_fst : (c.dispatch r).1 = c.filter fun p => p.id ≠ r.id := by
  unfold dispatch
  cases found : c.find? r.id with
  | some p => rfl
  | none =>
    refine ext_outstanding rfl rfl (List.filter_eq_self.2 fun p hp => ?_).symm
    simpa using find?_eq_none.1 found p hp

theorem handOver_of_none (free : c.find? r.id = none) : c.handOver r = ⟨r, .orphan, none⟩ := by
  simp [handOver, delivery, dispatch, free]

theorem handOver_of_some (found : c.find? r.id = some p) : c.handOver r =
    ⟨r, if p.callback.panics then .panicked else .delivered, some (p.settle (.answered r))⟩ := by
  simp [handOver, delivery_eq, dispatch, found]

theorem handOver_congr (same : c.find? r.id = c'.find? r.id) : c.handOver r = c'.handOver r := by
  cases found : c.find? r.id with
  | none => rw [handOver_of_none found, handOver_of_none (same ▸ found)]
  | some p => rw [handOver_of_some found, handOver_of_some (same ▸ found)]

/-- What is kept by its id is still found. -/
theorem find?_filter_id (keep : RequestId → Bool) :
    (c.filter fun p => keep p.id).find? id = if keep id then c.find? id else none := by
  simp only [find?, filter_outstanding, List.find?_filter]
  split
  next kept =>
    congr 1
    funext p
    by_cases same : p.id = id
    · simp [same, kept]
    · simp [same]
  next gone =>
    refine List.find?_eq_none.2 fun p _ => ?_
    by_cases same : p.id = id
    · simp [same, gone]
    · simp [same]

theorem find?_dispatch :
    (c.dispatch r).1.find? id = if id = r.id then none else c.find? id := by
  rw [dispatch_fst, find?_filter_id fun id => id ≠ r.id]
  by_cases same : id = r.id <;> simp [same]

/-! ### Several responses -/

theorem fst_dispatchAll_cons :
    (c.dispatchAll (r :: rs)).1 = ((c.dispatch r).1.dispatchAll rs).1 := rfl

theorem snd_dispatchAll_cons :
    (c.dispatchAll (r :: rs)).2 = c.handOver r :: ((c.dispatch r).1.dispatchAll rs).2 := rfl

theorem dispatchAll_fst :
    (c.dispatchAll rs).1 = c.filter fun p => p.id ∉ rs.map Response.id := by
  induction rs generalizing c with
  | nil => exact ext_outstanding rfl rfl (List.filter_eq_self.2 fun _ _ => rfl).symm
  | cons r rs ih =>
    rw [fst_dispatchAll_cons, ih, dispatch_fst]
    refine ext_outstanding rfl rfl ?_
    rw [filter_outstanding, filter_outstanding, filter_outstanding, List.filter_filter]
    refine List.filter_congr fun p _ => ?_
    simp [not_or, Bool.and_comm]

theorem response_dispatchAll : (c.dispatchAll rs).2.map Handover.response = rs := by
  induction rs generalizing c with
  | nil => rfl
  | cons r rs ih => exact congrArg (r :: ·) ih

/-- What comes of responses depends only on what waits for them. -/
theorem dispatchAll_congr (same : ∀ r ∈ rs, c.find? r.id = c'.find? r.id) :
    (c.dispatchAll rs).2 = (c'.dispatchAll rs).2 := by
  induction rs generalizing c c' with
  | nil => rfl
  | cons r rs ih =>
    obtain ⟨first, rest⟩ := List.forall_mem_cons.1 same
    rw [snd_dispatchAll_cons, snd_dispatchAll_cons, handOver_congr first]
    refine congrArg (c'.handOver r :: ·) (ih fun s hs => ?_)
    rw [find?_dispatch, find?_dispatch, rest s hs]

theorem handOver_due : Due c [] (c.handOver r) := by
  cases found : c.find? r.id with
  | none =>
    rw [handOver_of_none found]
    exact .orphan (.inl (by simpa using find?_eq_none.1 found))
  | some p =>
    rw [handOver_of_some found]
    obtain ⟨hp, own⟩ := mem_of_find? found
    exact .delivered hp own List.not_mem_nil

/-- What is due after one response and then some others. -/
theorem Due.cons {earlier : List Response} (due : Due (c.dispatch r).1 earlier x) :
    Due c (r :: earlier) x := by
  rw [dispatch_fst] at due
  cases due with
  | delivered waits own first =>
    obtain ⟨waits, other⟩ := List.mem_filter.1 waits
    refine .delivered waits own ?_
    rw [own] at other
    simpa [first] using other
  | @orphan s late =>
    refine .orphan ?_
    by_cases same : s.id = r.id
    · exact .inr (by simp [same])
    · rcases late with none | before
      · refine .inl fun waits => none ?_
        obtain ⟨p, hp, own⟩ := List.mem_map.1 waits
        exact List.mem_map.2 ⟨p, List.mem_filter.2 ⟨hp, by simpa [own] using same⟩, own⟩
      · exact .inr (by simp [before])

theorem due_of_split (split : (c.dispatchAll rs).2 = xs ++ x :: ys) :
    Due c (xs.map Handover.response) x := by
  induction rs generalizing c xs with
  | nil => cases xs <;> cases split
  | cons r rs ih =>
    rw [snd_dispatchAll_cons] at split
    cases xs with
    | nil =>
      obtain ⟨rfl, -⟩ := List.cons.inj split
      exact handOver_due
    | cons y xs =>
      obtain ⟨rfl, rest⟩ := List.cons.inj split
      exact (ih rest).cons

/-- Each request that has a response among some is told the first one, once. -/
theorem told_perm : ((c.dispatchAll rs).2.filterMap Handover.told).Perm
    (c.outstanding.filterMap fun p =>
      (rs.find? fun r => r.id = p.id).map fun r => p.settle (.answered r)) := by
  induction rs generalizing c with
  | nil => simp [dispatchAll]
  | cons r rs ih =>
    have others : ((c.dispatch r).1.outstanding.filterMap fun p =>
        (rs.find? fun r => r.id = p.id).map fun r => p.settle (.answered r)) =
        (c.outstanding.filter fun p => p.id ≠ r.id).filterMap fun p =>
          ((r :: rs).find? fun r => r.id = p.id).map fun r => p.settle (.answered r) := by
      rw [dispatch_fst, filter_outstanding]
      refine List.filterMap_congr fun p hp => ?_
      have other : r.id ≠ p.id := fun same => by simp [same] at hp
      simp [other]
    have rest := ih (c := (c.dispatch r).1)
    rw [others] at rest
    rw [snd_dispatchAll_cons]
    cases found : c.find? r.id with
    | none =>
      have all : (c.outstanding.filter fun p => p.id ≠ r.id) = c.outstanding :=
        List.filter_eq_self.2 fun p hp => by simpa using find?_eq_none.1 found p hp
      rw [all] at rest
      rw [handOver_of_none found]
      simpa using rest
    | some p =>
      obtain ⟨hp, own⟩ := mem_of_find? found
      rw [handOver_of_some found]
      calc p.settle (.answered r) :: ((c.dispatch r).1.dispatchAll rs).2.filterMap Handover.told
        _ ~ p.settle (.answered r) :: (c.outstanding.filter fun p => p.id ≠ r.id).filterMap
            fun p => ((r :: rs).find? fun r => r.id = p.id).map fun r => p.settle (.answered r) :=
          rest.cons _
        _ ~ _ := List.perm_append_singleton _ _ |>.symm
        _ ~ _ := by
          have all := (c.perm_of_find? found).filterMap fun p =>
            ((r :: rs).find? fun r => r.id = p.id).map fun r => p.settle (.answered r)
          simpa [own] using all.symm

/-! ### Other orders -/

/-- Elements that are in the same order as long as they have the same key. -/
theorem perm_of_filter {α β : Type} [DecidableEq α] [DecidableEq β] {key : α → β} {l l' : List α}
    (same : ∀ k, l.filter (fun a => key a = k) = l'.filter fun a => key a = k) : l.Perm l' := by
  refine List.perm_iff_count.2 fun a => ?_
  have own (l : List α) : (l.filter fun b => key b = key a).count a = l.count a :=
    List.count_filter (by simp)
  rw [← own l, ← own l', same]

/-- What comes of the responses of one id is the same without the others. -/
theorem filter_dispatchAll (id : RequestId) :
    ((c.dispatchAll rs).2.filter fun x => x.response.id = id) =
      (c.dispatchAll (rs.filter fun r => r.id = id)).2 := by
  induction rs generalizing c with
  | nil => rfl
  | cons r rs ih =>
    rw [snd_dispatchAll_cons]
    by_cases own : r.id = id
    · have own' : (c.handOver r).response.id = id := own
      rw [List.filter_cons_of_pos (by simpa using own'),
        List.filter_cons_of_pos (by simpa using own), ih, snd_dispatchAll_cons]
    · have own' : (c.handOver r).response.id ≠ id := own
      rw [List.filter_cons_of_neg (by simpa using own'),
        List.filter_cons_of_neg (by simpa using own), ih]
      refine dispatchAll_congr fun s hs => ?_
      have is : s.id = id := by simpa using (List.mem_filter.1 hs).2
      rw [find?_dispatch, if_neg]
      rw [is]
      exact Ne.symm own

theorem filter_dispatchAll_eq (same : SameById rs rs') (id : RequestId) :
    ((c.dispatchAll rs').2.filter fun x => x.response.id = id) =
      (c.dispatchAll rs).2.filter fun x => x.response.id = id := by
  rw [filter_dispatchAll, filter_dispatchAll, same id]

theorem dispatchAll_fst_congr (same : rs.Perm rs') :
    (c.dispatchAll rs').1 = (c.dispatchAll rs).1 := by
  rw [dispatchAll_fst, dispatchAll_fst]
  refine ext_outstanding rfl rfl (List.filter_congr fun p _ => ?_)
  simp only [(same.map Response.id).mem_iff]

/-! ### Expiry between responses -/

section Expiry

variable {now timeout : Nat}

theorem find?_expire (spared : id ∉ (c.overdue now timeout).map Pending.id) :
    (c.expire now timeout).1.find? id = c.find? id := by
  rw [expire_eq]
  cases found : c.find? id with
  | none => exact find?_eq_none.2 fun p hp => find?_eq_none.1 found p (List.mem_filter.1 hp).1
  | some p =>
    obtain ⟨hp, rfl⟩ := mem_of_find? found
    have young : ¬ timeout ≤ p.age now := fun old =>
      spared (List.mem_map_of_mem (mem_overdue.2 ⟨hp, old⟩))
    exact find?_of_mem (List.mem_filter.2 ⟨hp, by simpa using young⟩)

/-- Requests that no response is for are overdue before and after. -/
theorem overdue_dispatchAll (spared : ∀ r ∈ rs, r.id ∉ (c.overdue now timeout).map Pending.id) :
    (c.dispatchAll rs).1.overdue now timeout = c.overdue now timeout := by
  rw [dispatchAll_fst, overdue, filter_outstanding, List.filter_filter]
  refine List.filter_congr fun p hp => ?_
  by_cases old : timeout ≤ p.age now
  · have free : p.id ∉ rs.map Response.id := by
      intro answered
      obtain ⟨r, hr, same⟩ := List.mem_map.1 answered
      exact spared r hr (same ▸ List.mem_map_of_mem (mem_overdue.2 ⟨hp, old⟩))
    rw [decide_eq_true old, decide_eq_true free]
    rfl
  · rw [decide_eq_false old, Bool.false_and]

theorem expire_dispatchAll (spared : ∀ r ∈ rs, r.id ∉ (c.overdue now timeout).map Pending.id) :
    (c.dispatchAll rs).1.expire now timeout =
      (((c.expire now timeout).1.dispatchAll rs).1, (c.expire now timeout).2) := by
  rw [expire_eq, overdue_dispatchAll spared, dispatchAll_fst, dispatchAll_fst, expire_eq]
  refine Prod.ext ?_ rfl
  simp only [filter_filter, Bool.and_comm]

end Expiry

/-! ### All of it -/

/-- What comes of dispatching responses, in this order and in others. -/
structure Confluent (c : Correlator) (rs : List Response) : Prop where
  /-- The requests that are left are those that have no response. Nothing else changes. -/
  left : (c.dispatchAll rs).1 = c.filter fun p => p.id ∉ rs.map Response.id
  /-- The first response to a request is delivered. All others are orphans. -/
  responses : (c.dispatchAll rs).2.map Handover.response = rs
  due : ∀ xs x ys, (c.dispatchAll rs).2 = xs ++ x :: ys → Due c (xs.map Handover.response) x
  /-- Each request that has a response is told the first one, once. -/
  told : ((c.dispatchAll rs).2.filterMap Handover.told).Perm
    (c.outstanding.filterMap fun p =>
      (rs.find? fun r => r.id = p.id).map fun r => p.settle (.answered r))
  /-- The order among responses of different ids does not matter. -/
  reordered : ∀ rs', SameById rs rs' → rs.Perm rs' ∧
    (c.dispatchAll rs').1 = (c.dispatchAll rs).1 ∧
      (c.dispatchAll rs').2.Perm (c.dispatchAll rs).2 ∧
        ∀ id, ((c.dispatchAll rs').2.filter fun x => x.response.id = id) =
          (c.dispatchAll rs).2.filter fun x => x.response.id = id
  /-- Nor does it matter whether other requests are failed before or after. -/
  expires : ∀ now timeout,
    (∀ r ∈ rs, r.id ∉ (c.expire now timeout).2.map fun s => s.request.id) →
      (c.dispatchAll rs).1.expire now timeout =
        (((c.expire now timeout).1.dispatchAll rs).1, (c.expire now timeout).2) ∧
      ((c.expire now timeout).1.dispatchAll rs).2 = (c.dispatchAll rs).2

/-- The first response of each id counts, and nothing else about the order of responses does. -/
theorem confluent (c : Correlator) (rs : List Response) : c.Confluent rs where
  left := dispatchAll_fst
  responses := response_dispatchAll
  due xs x ys split := due_of_split split
  told := told_perm
  reordered rs' same := by
    have perm : rs.Perm rs' := perm_of_filter same
    have alike := filter_dispatchAll_eq (c := c) same
    exact ⟨perm, dispatchAll_fst_congr perm, perm_of_filter alike, alike⟩
  expires now timeout spared := by
    rw [ids_expire] at spared
    exact ⟨expire_dispatchAll spared, dispatchAll_congr fun r hr => find?_expire (spared r hr)⟩

end Correlator

end GattRpc
