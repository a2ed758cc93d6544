import GattRpc.Proofs.Connection.Receipts
import GattRpc.Proofs.Session.Returns

/-! # How calls come to their end

A call runs until its command is replied to. A call for a response then runs until its
callback is told or dropped. After that it has returned once, and runs no longer
(`Session.Run.tracked`). No call is skipped, so what a call returned tells what the task did with
its command. -/

namespace GattRpc

open Connection History

/-- It is told to the call of this number that it returns this. -/
inductive Output.Gives (n : Nat) : Output → ClientCall → CallResult → Prop
  | connected : Gives n (.reply n (.connect (.ok ()))) .connect .connected
  | unconnected {e : RpcError} : Gives n (.reply n (.connect (.error e))) .connect (.failed e)
  | sent {method : String} {params : Json} {callback : Option Callback} {id : RequestId} :
    Gives n (.reply n (.send (.ok id))) (.send method params callback) (.sent id)
  | unsent {call : ClientCall} {e : RpcError} (sends : call.Sends) :
    Gives n (.reply n (.send (.error e))) call (.failed e)
  | answered {method : String} {params : Json} {x : Settlement} {r : Response}
    (token : x.callback.token = n) (outcome : x.outcome = .answered r) :
    Gives n (.settled x) (.call method params) (.answered r)
  | failed {method : String} {params : Json} {x : Settlement} {e : RpcError}
    (token : x.callback.token = n) (outcome : x.outcome = .failed e) :
    Gives n (.settled x) (.call method params) (.failed e)
  | closed : Gives n (.reply n .close) .close .closed

/-- It has to do with the call of this number. -/
def Output.Concerns (n : Nat) (o : Output) : Prop :=
  o.Releases n ∨ ∃ y, o = .reply n y

namespace Session

variable {L : Type}

/-- What others see once that has been told. -/
def statusAfter (out : List Output) : LinkStatus := History.status (out.map .tell)

/-- What runs under a number, and what has returned under it. -/
def entry (s : Session L) (n : Nat) : List RunningCall × List (Nat × CallResult) :=
  (s.running.filter fun a => a.number = n, s.finished.filter fun f => f.1 = n)

/-- Why a call has returned this: it was refused, it was told, its callback was dropped, when the
reason for closing could be seen already or because another took its place, or it was left behind
when the task crashed. -/
inductive Concluded (j : Journal) (out : List Output) (crashed : Prop) (n : Nat)
    (call : ClientCall) (r : CallResult) : Prop
  | refused {e : RpcError} (refused : (n, e) ∈ j.refused) (sends : call.Sends) (is : r = .failed e)
  | told {o : Output} (told : o ∈ out) (gives : o.Gives n call r)
  | cancelled {method : String} {params : Json} {d : Callback} {id : RequestId}
    {reason : CloseReason} {before : List Output} (wants : call = .call method params)
    (dropped : before ++ [.discarded d] <+: out) (token : d.token = n)
    (sent : .reply n (.send (.ok id)) ∈ out)
    (recorded : (statusAfter before).closeReason = some reason)
    (is : r = .failed (.cancelled reason))
  | displaced {method : String} {params : Json} {d : Callback} {id : RequestId}
    (wants : call = .call method params) (dropped : .discarded d ∈ out) (token : d.token = n)
    (sent : .reply n (.send (.ok id)) ∈ out) (displaces : j.history.Displaces n)
    (is : r = .failed .shutdown)
  | orphaned (crashed : crashed) (unsent : ∀ id, r ≠ .sent id)
    (unreplied : ∀ method params callback, call = .send method params callback →
      ∀ y, .reply n y ∉ out)

/-- How far a call has come. -/
inductive Tracked (j : Journal) (out : List Output) (crashed : Prop) (s : Session L) (n : Nat)
    (call : ClientCall) : Prop
  | pending {stage : CallStage} (early : stage ≠ .response)
    (entry : s.entry n = ([⟨n, call, stage⟩], [])) (unreplied : ∀ y, .reply n y ∉ out)
  | awaiting {method : String} {params : Json} {id : RequestId}
    (wants : call = .call method params) (entry : s.entry n = ([⟨n, call, .response⟩], []))
    (sent : .reply n (.send (.ok id)) ∈ out) (unreleased : ∀ o ∈ out, ¬ o.Releases n)
  | returned {r : CallResult} (entry : s.entry n = ([], [(n, r)]))
    (concluded : Concluded j out crashed n call r)

/-- What the task tells is told in due order. -/
structure Orderly (j : Journal) : Prop where
  answers : ∀ n y, .reply n y ∈ j.history.outputs →
    ∃ call, (n, call) ∈ j.began ∧ y.Answers (call.command n)
  once : ∀ before n y, before ++ [.reply n y] <+: j.history.outputs → ∀ z, .reply n z ∉ before
  sent : ∀ before n id, before ++ [.reply n (.send (.ok id))] <+: j.history.outputs →
    ∀ o ∈ before, ¬ o.Releases n
  settled : ∀ before x, before ++ [.settled x] <+: j.history.outputs →
    .reply x.callback.token (.send (.ok x.request.id)) ∈ before
  dropped : ∀ before d id, before ++ [.discarded d] <+: j.history.outputs →
    .reply d.token (.send (.ok id)) ∈ j.history.outputs →
      (statusAfter before).closeReason.isSome = true ∨ j.history.Displaces d.token
  refused : ∀ n e y, (n, e) ∈ j.refused → .reply n y ∉ j.history.outputs

end Session

variable {L : Type} {options : Options} {j more : Journal} {s s' : Session L}
  {out : List Output} {o : Output} {n m : Nat} {call : ClientCall} {r : CallResult}
  {crashed crashed' : Prop}

/-! ### What is told in order -/

namespace History

variable {h : History}

theorem exists_of_outputs (early : out ++ [o] <+: h.outputs) :
    ∃ before : History, before ++ [.tell o] <+: h ∧ before.outputs = out := by
  obtain ⟨later, is⟩ := early
  rw [List.append_assoc] at is
  obtain ⟨f, g, rfl, first, second⟩ := List.filterMap_eq_append_iff.1 is.symm
  obtain ⟨silent, a, g', rfl, none, told, -⟩ := List.filterMap_eq_cons_iff.1 second
  have is : a = .tell o := by
    cases a with
    | tell => exact congrArg Act.tell (Option.some.inj told)
    | take | call | answer => cases told
  subst is
  refine ⟨f ++ silent, ⟨g', by simp⟩, ?_⟩
  rw [outputs_append, show outputs f = out from first,
    show outputs silent = [] from List.filterMap_eq_nil_iff.2 none, List.append_nil]

end History

namespace Session

theorem statusAfter_outputs {h : History} : statusAfter h.outputs = h.status :=
  congrArg (fun shown : List LinkStatus => shown.getLastD {}) statuses_outputs

theorem Run.orderly {s : Session Unit} (run : Session.Run options j s) : Orderly j := by
  obtain ⟨u, d⟩ := run.task.exists_deeds
  have vouched := d.vouched run.ticketed
  have taken {n : Nat} {y : Reply} (reply : .reply n y ∈ j.history.outputs) :
      ∃ cmd, (n, cmd) ∈ j.history.commands ∧ y.Answers cmd :=
    (d.honours n y (mem_replies.2 reply)).taken
  refine ⟨fun n y reply => ?_, fun before n y early z reply => ?_, fun before n id early => ?_,
    fun before x early => ?_, fun before cb id early sent => ?_, fun n e y refused reply => ?_⟩
  · obtain ⟨cmd, taken, answers⟩ := taken reply
    obtain ⟨call, began, rfl⟩ := run.numbered.ordered n cmd (List.mem_append_left _ taken)
    exact ⟨call, began, answers⟩
  · obtain ⟨before, ⟨later, split⟩, rfl⟩ := exists_of_outputs early
    have once := d.replied.once run.ticketed
    rw [← split, replies_append, replies_append, List.map_append, List.map_append] at once
    refine (List.nodup_append.1 (List.nodup_append.1 once).1).2.2 n ?_ n ?_ rfl
    · exact List.mem_map.2 ⟨_, mem_replies.2 reply, rfl⟩
    · exact List.mem_map.2 ⟨(n, y), List.mem_cons_self, rfl⟩
  · obtain ⟨before, told, rfl⟩ := exists_of_outputs early
    exact vouched.due.of_prefix told
  · obtain ⟨before, told, rfl⟩ := exists_of_outputs early
    exact mem_replies.1 (mem_sends.1 (vouched.due.of_prefix told))
  · obtain ⟨before, dropped, rfl⟩ := exists_of_outputs early
    rcases run.task.excused run.ticketed dropped with ⟨e, failed⟩ | why
    · -- Its command would have two replies.
      have first := mem_replies.2 sent
      have second := mem_sends.1 failed
      have same := congrArg Prod.snd
        (List.inj_on_of_nodup_map (d.replied.once run.ticketed) first second rfl)
      cases same
    · rwa [statusAfter_outputs]
  · obtain ⟨cmd, taken, -⟩ := taken reply
    have queued : n ∈ (s.orders j).map Prod.fst :=
      List.mem_map.2 ⟨_, List.mem_append_left _ taken, rfl⟩
    exact run.numbered.apart queued (List.mem_map_of_mem refused)

end Session

/-! ### Entries -/

namespace Session

theorem entry_finish : (s.finish n r).entry n = ([], (s.entry n).2 ++ [(n, r)]) := by
  unfold entry finish
  rw [List.filter_filter, List.filter_append]
  refine Prod.ext ?_ ?_
  · exact List.filter_eq_nil_iff.2 fun a _ => by simp
  · simp

theorem entry_finish_of_ne (other : m ≠ n) : (s.finish m r).entry n = s.entry n := by
  unfold entry finish
  rw [List.filter_filter, List.filter_append]
  refine Prod.ext ?_ ?_
  · refine List.filter_congr fun a _ => ?_
    by_cases same : a.number = n
    · simp [same, Ne.symm other]
    · simp [same]
  · simp [other]

/-- The callback of a token settles what runs under it, if that wants a response. -/
theorem runningCall?_eq {d : Callback} :
    s.runningCall? d = (s.entry d.token).1.find? RunningCall.wantsResponse := by
  rw [entry, List.find?_filter, runningCall?]
  exact congrArg (List.find? · s.running) (funext fun a => by simp)

theorem find?_number_eq : (s.running.find? fun a => a.number = n) = (s.entry n).1.head? := by
  rw [entry, List.head?_filter]

theorem entry_map {f : RunningCall → RunningCall} (number : ∀ a, (f a).number = a.number) :
    ({ s with running := s.running.map f } : Session L).entry n =
      ((s.entry n).1.map f, (s.entry n).2) := by
  unfold entry
  rw [List.filter_map]
  refine Prod.ext (congrArg (List.map f) (List.filter_congr fun a _ => ?_)) rfl
  exact congrArg (fun m => decide (m = n)) (number a)

theorem entry_await {stage : CallStage} : (s.await m stage).entry n =
    ((s.entry n).1.map fun a => if a.number = m then { a with stage } else a, (s.entry n).2) :=
  entry_map fun a => by split <;> rfl

theorem entry_await_of_ne {stage : CallStage} (other : m ≠ n) :
    (s.await m stage).entry n = s.entry n := by
  rw [entry_await]
  refine Prod.ext ?_ rfl
  refine (List.map_congr_left fun a ha => ?_).trans (List.map_id _)
  have number : a.number = n := of_decide_eq_true (List.mem_filter.1 ha).2
  rw [number, if_neg (Ne.symm other)]
  rfl

/-- What has nothing to do with a call leaves it as it is. -/
theorem entry_note (other : ¬ o.Concerns n) : (s.note o).entry n = s.entry n := by
  cases o with
  | shown | event => rfl
  | settled x =>
    have token : x.callback.token ≠ n := fun same => other (.inl same)
    cases found : s.runningCall? x.callback with
    | none => simp only [note, found]; rfl
    | some a =>
      have number : a.number = x.callback.token := by
        rw [runningCall?_eq] at found
        exact of_decide_eq_true (List.mem_filter.1 (List.mem_of_find?_eq_some found)).2
      rw [← number] at token
      cases outcome : x.outcome with
      | answered y => simp only [note, found, outcome]; exact entry_finish_of_ne token
      | failed e => simp only [note, found, outcome]; exact entry_finish_of_ne token
  | discarded d =>
    have token : d.token ≠ n := fun same => other (.inl same)
    cases found : s.runningCall? d with
    | none => simp only [note, found]
    | some a =>
      have number : a.number = d.token := by
        rw [runningCall?_eq] at found
        exact of_decide_eq_true (List.mem_filter.1 (List.mem_of_find?_eq_some found)).2
      rw [← number] at token
      obtain ⟨number', call, stage⟩ := a
      cases stage with
      | room | reply => simp only [note, found]
      | response => simp only [note, found]; exact entry_finish_of_ne token
  | reply m y =>
    have number : m ≠ n := fun same => other (.inr ⟨y, by rw [same]⟩)
    cases y with
    | connect r => exact entry_finish_of_ne number
    | close => exact entry_finish_of_ne number
    | send r =>
      cases r with
      | error e => exact entry_finish_of_ne number
      | ok id =>
        cases found : s.running.find? fun a => a.number = m with
        | none => simp only [note, found]
        | some a =>
          cases wants : a.wantsResponse with
          | true => simp only [note, found, wants, if_true]; exact entry_await_of_ne number
          | false =>
            simp only [note, found, wants, Bool.false_eq_true, if_false]
            exact entry_finish_of_ne number

/-! ### Taking note -/

theorem Concluded.tells (k : Concluded j out False n call r) :
    Concluded j (out ++ [o]) False n call r := by
  cases k with
  | refused refused sends is => exact .refused refused sends is
  | told told gives => exact .told (List.mem_append_left _ told) gives
  | cancelled wants dropped token sent recorded is =>
    exact .cancelled wants (dropped.trans (List.prefix_append _ _)) token
      (List.mem_append_left _ sent) recorded is
  | displaced wants dropped token sent displaces is =>
    exact .displaced wants (List.mem_append_left _ dropped) token (List.mem_append_left _ sent)
      displaces is
  | orphaned crashed => exact crashed.elim

/-- A call that has returned was replied to, unless it was refused. -/
theorem Concluded.unreplied (k : Concluded j out False n call r) (ord : Orderly j)
    (early : out ++ [o] <+: j.history.outputs) (y : Reply) : o ≠ .reply n y := by
  rintro rfl
  have later {o' : Output} (told : o' ∈ out) : ∃ before, before ++ [o'] <+: j.history.outputs ∧
      ∀ z, z ∈ before → z ∈ out := by
    obtain ⟨before, after, rfl⟩ := List.append_of_mem told
    refine ⟨before, ?_, fun z hz => List.mem_append_left _ hz⟩
    exact List.IsPrefix.trans ⟨after ++ [.reply n y], by simp⟩ early
  have settled {x : Settlement} (told : .settled x ∈ out) (token : x.callback.token = n) :
      False := by
    obtain ⟨before, told, earlier⟩ := later told
    have sent := ord.settled before x told
    rw [token] at sent
    exact ord.once out n y early _ (earlier _ sent)
  cases k with
  | refused refused =>
    exact ord.refused n _ y refused (early.subset (List.mem_append_right _ List.mem_cons_self))
  | told told gives =>
    cases gives with
    | answered token => exact settled told token
    | failed token => exact settled told token
    | connected | unconnected | sent | unsent | closed => exact ord.once out n y early _ told
  | cancelled _ _ _ sent => exact ord.once out n y early _ sent
  | displaced _ _ _ sent => exact ord.once out n y early _ sent
  | orphaned crashed => exact crashed

/-- What is noted keeps what can be seen in step with what was told. -/
theorem statusAfter_note (seen : s.status = statusAfter out) :
    (s.note o).status = statusAfter (out ++ [o]) := by
  rw [note_status, seen, statusAfter, statusAfter, List.map_append, status_append]
  rfl

namespace Tracked

/-- What has nothing to do with a call, or is only that its callback is dropped before the reply. -/
theorem ignores (k : Tracked j out False s n call) (entry : s'.entry n = s.entry n)
    (unreplied : ∀ y, o ≠ .reply n y)
    (unreleased : o.Releases n → ∀ id, .reply n (.send (.ok id)) ∉ out ∨ (s.entry n).1 = []) :
    Tracked j (out ++ [o]) False s' n call := by
  cases k with
  | pending waits was before =>
    refine .pending waits (entry.trans was) fun y hy => ?_
    rcases List.mem_append.1 hy with hy | hy
    · exact before y hy
    · exact unreplied y (List.mem_singleton.1 hy).symm
  | @awaiting method params id wants was sent before =>
    refine .awaiting wants (entry.trans was) (List.mem_append_left _ sent) fun o' ho => ?_
    rcases List.mem_append.1 ho with ho | ho
    · exact before o' ho
    · intro releases
      rw [List.mem_singleton.1 ho] at releases
      rcases unreleased releases id with unsent | none
      · exact unsent sent
      · rw [was] at none
        cases none
  | returned was concluded => exact .returned (entry.trans was) concluded.tells

theorem settle {x : Settlement} (k : Tracked j out False s n call) (ord : Orderly j)
    (early : out ++ [.settled x] <+: j.history.outputs) (token : x.callback.token = n) :
    Tracked j (out ++ [.settled x]) False (s.note (.settled x)) n call := by
  have sent := ord.settled out x early
  rw [token] at sent
  have found := runningCall?_eq (s := s) (d := x.callback)
  rw [token] at found
  cases k with
  | pending _ _ unreplied => exact (unreplied _ sent).elim
  | @awaiting method params id wants entry _ _ =>
    subst wants
    rw [entry] at found
    have found : s.runningCall? x.callback = some ⟨n, .call method params, .response⟩ := found
    have ends {r : CallResult} : (s.finish n r).entry n = ([], [(n, r)]) := by
      rw [entry_finish, entry]
      rfl
    have mem : .settled x ∈ out ++ [.settled x] := List.mem_append_right _ List.mem_cons_self
    cases outcome : x.outcome with
    | answered y =>
      simp only [note, found, outcome]
      exact .returned ends (.told mem (.answered token outcome))
    | failed e =>
      simp only [note, found, outcome]
      exact .returned ends (.told mem (.failed token outcome))
  | returned entry concluded =>
    rw [entry] at found
    have found : s.runningCall? x.callback = none := found
    have same : s.note (.settled x) = { s with settled := s.settled ++ [x] } := by
      simp only [note, found]
    rw [same]
    exact .returned entry concluded.tells

theorem discard {d : Callback} (k : Tracked j out False s n call) (ord : Orderly j)
    (early : out ++ [.discarded d] <+: j.history.outputs) (seen : s.status = statusAfter out)
    (token : d.token = n) :
    Tracked j (out ++ [.discarded d]) False (s.note (.discarded d)) n call := by
  have found := runningCall?_eq (s := s) (d := d)
  rw [token] at found
  cases k with
  | @pending stage waits entry unreplied =>
    have same : s.note (.discarded d) = s := by
      rw [entry] at found
      cases wants : RunningCall.wantsResponse ⟨n, call, stage⟩ with
      | true =>
        rw [List.find?_cons_of_pos wants] at found
        cases stage with
        | room | reply => simp only [note, found]
        | response => exact (waits rfl).elim
      | false =>
        rw [List.find?_cons_of_neg (by simp [wants])] at found
        simp only [note, found, List.find?_nil]
    rw [same]
    refine (Tracked.pending waits entry unreplied).ignores rfl ?_ fun _ id => .inl (unreplied _)
    rintro y ⟨⟩
  | @awaiting method params id wants entry sent _ =>
    subst wants
    rw [entry] at found
    have found : s.runningCall? d = some ⟨n, .call method params, .response⟩ := found
    have ends {r : CallResult} : (s.finish n r).entry n = ([], [(n, r)]) := by
      rw [entry_finish, entry]
      rfl
    have mem : .discarded d ∈ out ++ [.discarded d] := List.mem_append_right _ List.mem_cons_self
    have sent' : .reply n (.send (.ok id)) ∈ out ++ [.discarded d] := List.mem_append_left _ sent
    have why := ord.dropped out d id early (by rw [token]; exact early.subset sent')
    simp only [note, found]
    rw [← seen] at why
    cases recorded : s.status.closeReason with
    | some reason =>
      refine .returned ends (.cancelled rfl List.prefix_rfl token sent' (seen ▸ recorded) ?_)
      rw [released, recorded]
    | none =>
      rw [recorded] at why
      have displaces := why.resolve_left (by simp)
      rw [token] at displaces
      refine .returned ends (.displaced rfl mem token sent' displaces ?_)
      rw [released, recorded]
  | returned entry concluded =>
    rw [entry] at found
    have found : s.runningCall? d = none := found
    have same : s.note (.discarded d) = s := by simp only [note, found]
    rw [same]
    exact .returned entry concluded.tells

/-- A call is replied to. -/
theorem reply {y : Reply} {stage : CallStage} (entry : s.entry n = ([⟨n, call, stage⟩], []))
    (unreleased : ∀ id, y = .send (.ok id) → ∀ o ∈ out, ¬ o.Releases n)
    (answers : y.Answers (call.command n)) :
    Tracked j (out ++ [.reply n y]) False (s.note (.reply n y)) n call := by
  have ends {r : CallResult} : (s.finish n r).entry n = ([], [(n, r)]) := by
    rw [entry_finish, entry]
    rfl
  have mem : .reply n y ∈ out ++ [.reply n y] := List.mem_append_right _ List.mem_cons_self
  cases y with
  | connect r =>
    cases ClientCall.eq_connect_of_answers answers
    cases r with
    | ok => exact .returned ends (.told mem .connected)
    | error => exact .returned ends (.told mem .unconnected)
  | close =>
    cases ClientCall.eq_close_of_answers answers
    exact .returned ends (.told mem .closed)
  | send r =>
    have sends := ClientCall.sends_of_answers answers
    cases r with
    | error => exact .returned ends (.told mem (.unsent sends))
    | ok id =>
      have found := find?_number_eq (s := s) (n := n)
      rw [entry, List.head?_cons] at found
      cases call with
      | connect | close => exact sends.elim
      | send =>
        simp only [note, found, RunningCall.wantsResponse, Bool.false_eq_true, if_false]
        exact .returned ends (.told mem .sent)
      | call =>
        simp only [note, found, RunningCall.wantsResponse, if_true]
        refine .awaiting rfl ?_ mem fun o ho => ?_
        · rw [entry_await, entry]
          simp
        · rcases List.mem_append.1 ho with ho | ho
          · exact unreleased id rfl o ho
          · rw [List.mem_singleton.1 ho]
            exact fun releases => releases

theorem note (k : Tracked j out False s n call) (ord : Orderly j)
    (early : out ++ [o] <+: j.history.outputs) (seen : s.status = statusAfter out)
    (began : (n, call) ∈ j.began) (distinct : (j.began.map Prod.fst).Nodup) :
    Tracked j (out ++ [o]) False (s.note o) n call := by
  by_cases concerns : o.Concerns n
  · rcases concerns with releases | ⟨y, rfl⟩
    · cases o with
      | settled x => exact k.settle ord early releases
      | discarded d => exact k.discard ord early seen releases
      | reply | shown | event => exact releases.elim
    · have mem : .reply n y ∈ j.history.outputs :=
        early.subset (List.mem_append_right _ List.mem_cons_self)
      cases k with
      | pending _ entry unreplied =>
        refine reply entry (fun id is => ?_) ?_
        · subst is
          exact ord.sent out n id early
        · obtain ⟨call', began', answers⟩ := ord.answers n y mem
          obtain rfl : call' = call := congrArg Prod.snd
            (List.inj_on_of_nodup_map distinct began' began rfl)
          exact answers
      | awaiting _ _ sent => exact (ord.once out n y early _ sent).elim
      | returned _ concluded => exact (concluded.unreplied ord early y rfl).elim
  · refine k.ignores (entry_note concerns) (fun y is => ?_) fun releases => ?_
    · exact concerns (.inr ⟨y, is⟩)
    · exact (concerns (.inl releases)).elim

theorem notes {out' : List Output} (k : Tracked j out False s n call)
    (ord : Orderly j) (early : out ++ out' <+: j.history.outputs) (seen : s.status = statusAfter out)
    (began : (n, call) ∈ j.began) (distinct : (j.began.map Prod.fst).Nodup) :
    Tracked j (out ++ out') False (out'.foldl Session.note s) n call := by
  induction out' generalizing out s with
  | nil => rwa [List.append_nil]
  | cons o out' ih =>
    rw [List.append_cons] at early ⊢
    have first := k.note ord ((List.prefix_append _ _).trans early) seen began distinct
    exact ih first early (statusAfter_note seen)

end Tracked

/-- Nothing runs under a number that no call has, and nothing has returned under it. -/
theorem entry_notes_of_unbegun {out' : List Output} (ord : Orderly j)
    (early : out ++ out' <+: j.history.outputs) (unbegun : ∀ call, (n, call) ∉ j.began)
    (empty : s.entry n = ([], [])) : (out'.foldl note s).entry n = ([], []) := by
  induction out' generalizing out s with
  | nil => exact empty
  | cons o out' ih =>
    rw [List.append_cons] at early
    refine ih early ?_
    have told : out ++ [o] <+: j.history.outputs := (List.prefix_append _ _).trans early
    have unreplied (y : Reply) : .reply n y ∉ j.history.outputs := by
      intro replied
      obtain ⟨call, began, -⟩ := ord.answers n y replied
      exact unbegun call began
    by_cases concerns : o.Concerns n
    · rcases concerns with releases | ⟨y, rfl⟩
      · cases o with
        | settled x =>
          obtain rfl : x.callback.token = n := releases
          have sent := List.mem_append_left [.settled x] (ord.settled out x told)
          exact (unreplied _ (told.subset sent)).elim
        | discarded d =>
          obtain rfl : d.token = n := releases
          have found := runningCall?_eq (s := s) (d := d)
          rw [empty] at found
          have found : s.runningCall? d = none := found
          simp only [note, found]
          exact empty
        | reply | shown | event => exact releases.elim
      · exact (unreplied y (told.subset (List.mem_append_right _ List.mem_cons_self))).elim
    · exact (entry_note concerns).trans empty

/-! ### Steps -/

/-- The task is over because it was to poll without a pause. -/
def Crashed (options : Options) (s : Session L) : Prop :=
  s.engine.ended = true ∧ options.pollMode = .interval 0

/-- Each call has come so far as the task has told. -/
structure Followed (options : Options) (j : Journal) (s : Session L) : Prop where
  begun : ∀ n call, (n, call) ∈ j.began →
    Tracked j j.history.outputs (s.Crashed options) s n call
  unbegun : ∀ n, (∀ call, (n, call) ∉ j.began) → s.entry n = ([], [])

/-- What was found of a call stays so. -/
theorem Tracked.mono {j' : Journal} (k : Tracked j out crashed s n call)
    (entry : s'.entry n = s.entry n) (refused : ∀ x ∈ j.refused, x ∈ j'.refused)
    (longer : j.history <+: j'.history) (crashes : crashed → crashed') :
    Tracked j' out crashed' s' n call := by
  cases k with
  | pending waits was unreplied => exact .pending waits (entry.trans was) unreplied
  | awaiting wants was sent unreleased =>
    exact .awaiting wants (entry.trans was) sent unreleased
  | returned was concluded =>
    refine .returned (entry.trans was) ?_
    cases concluded with
    | refused mem sends is => exact .refused (refused _ mem) sends is
    | told told gives => exact .told told gives
    | cancelled wants dropped token sent recorded is =>
      exact .cancelled wants dropped token sent recorded is
    | displaced wants dropped token sent displaces is =>
      exact .displaced wants dropped token sent (displaces.of_prefix longer) is
    | orphaned crashed unsent unreplied => exact .orphaned (crashes crashed) unsent unreplied

theorem Tracked.append (k : Tracked j out crashed s n call) (entry : s'.entry n = s.entry n)
    (crashes : crashed → crashed') : Tracked (j ++ more) out crashed' s' n call := by
  refine k.mono entry (fun x hx => ?_) ?_ crashes
  · rw [Journal.refused_append]
    exact List.mem_append_left _ hx
  · rw [Journal.history_append]
    exact List.prefix_append _ _

theorem entry_endOrphans (ended : s.engine.ended = true) :
    s.endOrphans.entry n =
      ([], (s.entry n).2 ++ (s.entry n).1.map fun a => (a.number, s.orphaned a)) := by
  unfold endOrphans
  rw [if_pos ended, entry, entry, List.filter_append, List.filter_map]
  rfl

/-- The calls that run are left behind only by a task that crashed. -/
theorem Tracked.endOrphans (k : Tracked j out (s.Crashed options) s n call)
    (quit : s.engine.ended = true → options.pollMode = .interval 0 ∨ s.running = []) :
    Tracked j out (s.endOrphans.Crashed options) s.endOrphans n call := by
  cases ended : s.engine.ended with
  | false =>
    have same : s.endOrphans = s := by rw [Session.endOrphans, ended]; rfl
    rwa [same]
  | true =>
    have crashed (some : (s.entry n).1 ≠ []) : s.endOrphans.Crashed options := by
      rw [Crashed, endOrphans_eq.1]
      refine ⟨ended, (quit ended).resolve_right fun none => some ?_⟩
      rw [entry, none]
      rfl
    have entry := entry_endOrphans (n := n) ended
    cases k with
    | pending waits was unreplied =>
      rw [was] at entry crashed
      refine .returned entry
        (.orphaned (crashed (List.cons_ne_nil _ _)) (fun id => ?_) fun _ _ _ _ => unreplied)
      unfold orphaned
      split <;> simp
    | awaiting wants was sent unreleased =>
      subst wants
      rw [was] at entry crashed
      refine .returned entry (.orphaned (crashed (List.cons_ne_nil _ _)) (fun id => ?_) ?_)
      · simp [orphaned]
      · intro _ _ _ wants
        cases wants
    | returned was concluded =>
      rw [was] at entry
      refine .returned entry ?_
      rw [Crashed, endOrphans_eq.1]
      exact concluded

namespace Followed

theorem same (k : Followed options j s) (history : more.history = []) (began : more.began = [])
    (running : s'.running = s.running) (finished : s'.finished = s.finished)
    (ended : s'.engine.ended = s.engine.ended) : Followed options (j ++ more) s' := by
  have entry (n : Nat) : s'.entry n = s.entry n := by
    rw [Session.entry, Session.entry, running, finished]
  have began : (j ++ more).began = j.began := by
    rw [Journal.began_append, began, List.append_nil]
  have outputs : (j ++ more).history.outputs = j.history.outputs := by
    rw [Journal.history_append, history, List.append_nil]
  refine ⟨fun n call hn => ?_, fun n hn => ?_⟩
  · rw [began] at hn
    rw [outputs]
    refine (k.begun n call hn).append (entry n) fun crash => ?_
    rwa [Crashed, ended]
  · rw [began] at hn
    exact (entry n).trans (k.unbegun n hn)

theorem note_running (none : s.running = []) : (s.note o).running = [] := by
  unfold note
  repeat' split
  all_goals simp [finish, await, none]

theorem notes_running (none : s.running = []) : (out.foldl note s).running = [] := by
  induction out generalizing s with
  | nil => exact none
  | cons o out ih => exact ih (note_running none)

theorem endOrphans_unbegun (empty : s.entry n = ([], [])) : s.endOrphans.entry n = ([], []) := by
  cases ended : s.engine.ended with
  | false =>
    rw [Session.endOrphans, ended]
    exact empty
  | true =>
    rw [entry_endOrphans ended, empty]
    rfl

/-- A task that is over leaves calls behind only if it crashed. -/
theorem endOrphans (k : Followed options j s)
    (quit : s.engine.ended = true → options.pollMode = .interval 0 ∨ s.running = []) :
    Followed options j s.endOrphans :=
  ⟨fun n call began => (k.begun n call began).endOrphans quit,
    fun n unbegun => endOrphans_unbegun (k.unbegun n unbegun)⟩

theorem entry_made (k : Followed options j s) (numbered : Numbered j s) :
    s.entry s.made = ([], []) :=
  k.unbegun s.made fun call began => Nat.lt_irrefl _ (numbered.begun s.made call began)

/-- A call begins, and nothing else changes. -/
theorem extend (k : Followed options j s) (numbered : Numbered j s)
    (began : more.began = [(s.made, call)]) (history : more.history = [])
    (apart : ∀ n, s.made ≠ n → s'.entry n = s.entry n)
    (ended : s'.engine.ended = s.engine.ended)
    (own : Tracked (j ++ more) j.history.outputs (s'.Crashed options) s' s.made call) :
    Followed options (j ++ more) s' := by
  have outputs : (j ++ more).history.outputs = j.history.outputs := by
    rw [Journal.history_append, history, List.append_nil]
  have all : (j ++ more).began = j.began ++ [(s.made, call)] := by
    rw [Journal.began_append, began]
  refine ⟨fun n call' hn => ?_, fun n hn => ?_⟩
  · rw [outputs]
    rw [all] at hn
    rcases List.mem_append.1 hn with hn | hn
    · have older := numbered.begun n call' hn
      refine (k.begun n call' hn).append (apart n (Nat.ne_of_gt older)) fun crashed => ?_
      rwa [Crashed, ended]
    · cases List.mem_singleton.1 hn
      exact own
  · have other : s.made ≠ n := by
      rintro rfl
      refine hn call ?_
      rw [all]
      exact List.mem_append_right _ List.mem_cons_self
    rw [apart n other]
    exact k.unbegun n fun call' hn' => hn call' (Journal.mem_began_append hn')

theorem begin (k : Followed options j s) (ord : Orderly j) (numbered : Numbered j s)
    (call : ClientCall) (quit : s.engine.ended = true → options.pollMode = .interval 0) :
    Followed options
      (j ++ .began s.made call :: (s.refusal? call).toList.map (.refused s.made))
      (s.begin call) := by
  obtain ⟨history, began, refused⟩ := s.records_begin call
  generalize Record.began s.made call :: (s.refusal? call).toList.map (.refused s.made) = more at *
  have empty := k.entry_made numbered
  rcases s.begin_cases call with ⟨-, is⟩ | ⟨e, refusal, sends, is⟩
  · rw [is, submit]
    refine endOrphans (k.extend numbered began history (fun n other => ?_) rfl ?_) fun ended =>
      .inl (quit ended)
    · simp [entry, other]
    · refine .pending (show CallStage.room ≠ .response by simp) ?_ fun y replied => ?_
      · have none := congrArg Prod.fst empty
        have unfinished := congrArg Prod.snd empty
        simp only [entry, List.filter_append] at none unfinished ⊢
        rw [none, unfinished]
        simp
      · obtain ⟨call', began', -⟩ := ord.answers s.made y replied
        exact Nat.lt_irrefl _ (numbered.begun s.made call' began')
  · rw [is]
    refine k.extend numbered began history (fun n other => entry_finish_of_ne other) rfl ?_
    refine .returned (entry_finish.trans ?_) (.refused (e := e) ?_ sends rfl)
    · rw [show ({ s with made := s.made + 1 } : Session L).entry s.made = ([], []) from empty]
      rfl
    · rw [Journal.refused_append, refused, refusal]
      exact List.mem_append_right _ List.mem_cons_self

/-- A call that has queued its command waits for the reply. -/
theorem enter {a : RunningCall} (k : Followed options j s) (runs : a ∈ s.running)
    (waits : a.stage = .room) :
    Followed options (j ++ [.queued a.number a.command]) (s.enter a) := by
  have k : Followed options (j ++ [.queued a.number a.command]) s := k.same rfl rfl rfl rfl rfl
  have entry_enter (n : Nat) : (s.enter a).entry n =
      ((s.entry n).1.map fun b => if b.number = a.number then { b with stage := .reply } else b,
        (s.entry n).2) := entry_await
  refine ⟨fun n call began => ?_, fun n unbegun => ?_⟩
  · by_cases own : a.number = n
    · have runs : a ∈ (s.entry n).1 := List.mem_filter.2 ⟨runs, decide_eq_true own⟩
      cases k.begun n call began with
      | pending _ entry unreplied =>
        refine .pending (show CallStage.reply ≠ .response by simp) ?_ unreplied
        rw [entry_enter, entry]
        simp [own]
      | awaiting _ entry =>
        rw [entry] at runs
        rw [List.mem_singleton.1 runs] at waits
        cases waits
      | returned entry =>
        rw [entry] at runs
        cases runs
    · exact (k.begun n call began).mono (entry_await_of_ne own) (fun _ => id) List.prefix_rfl id
  · rw [entry_enter, k.unbegun n unbegun]
    rfl

theorem proceed {queue : List (Nat × Command)} {acts : History} {t : Standing}
    (k : Followed options j s) (running : s.engine.ended = false)
    (seen : s.status = statusAfter j.history.outputs) (ord : Orderly (j ++ more))
    (distinct : (j.began.map Prod.fst).Nodup) (began : more.began = [])
    (outputs : more.history.outputs = acts.outputs)
    (quit : ({ s.engine with queue }.follow t).ended = true →
      options.pollMode = .interval 0 ∨ s.running = []) :
    Followed options (j ++ more) (s.proceed queue acts t) := by
  have told : (j ++ more).history.outputs = j.history.outputs ++ acts.outputs := by
    rw [Journal.history_append, History.outputs_append, outputs]
  have began : (j ++ more).began = j.began := by
    rw [Journal.began_append, began, List.append_nil]
  have early : j.history.outputs ++ acts.outputs <+: (j ++ more).history.outputs :=
    told ▸ List.prefix_rfl
  -- First the task goes on, then what it tells is noted, and then orphans are ended.
  generalize follows : ({ s with engine := { s.engine with queue }.follow t } : Session L) = s₁
  have entry (n : Nat) : s₁.entry n = s.entry n := by rw [← follows]; rfl
  have engine : s₁.engine = { s.engine with queue }.follow t := by rw [← follows]
  have runs : s₁.running = s.running := by rw [← follows]
  have seen : s₁.status = statusAfter j.history.outputs := by rw [← follows, ← seen]
  rw [← engine] at quit
  have proceeds : s.proceed queue acts t = (acts.outputs.foldl note s₁).endOrphans := by
    rw [← follows]
    rfl
  rw [proceeds]
  have noted : Followed options (j ++ more) (acts.outputs.foldl note s₁) := by
    refine ⟨fun n call hn => ?_, fun n hn => ?_⟩
    · have before : Tracked (j ++ more) j.history.outputs False s₁ n call := by
        rw [began] at hn
        refine (k.begun n call hn).append (entry n) fun crash => ?_
        have ended := crash.1
        rw [running] at ended
        cases ended
      rw [told]
      exact (before.notes ord early seen hn (by rwa [began])).mono rfl (fun _ => id)
        List.prefix_rfl False.elim
    · refine entry_notes_of_unbegun ord early hn ?_
      rw [began] at hn
      exact (entry n).trans (k.unbegun n hn)
  refine noted.endOrphans fun ended => ?_
  rw [foldl_note_eq.1] at ended
  exact (quit ended).imp_right fun none => notes_running (runs.trans none)

end Followed

/-- Each call that was begun waits for its reply, or for its response, or has returned. -/
theorem Run.followed {s : Session Unit} (run : Session.Run options j s) :
    Followed options j s := by
  induction run with
  | start opened =>
    obtain rfl := eq_of_open? opened
    exact ⟨nofun, fun _ _ => rfl⟩
  | @step j more s s' run step ih =>
    have goes {queue : List (Nat × Command)} {a : Act} {acts : History} {t : Standing}
        (run' : Session.Run options (j ++ (a :: acts).map .act) (s.proceed queue acts t))
        (step : s.engine.standing.Step (a :: acts) t)
        (offers : a = .take .clientsGone → s.running = [])
        (silent : History.outputs (a :: acts) = acts.outputs) :
        Followed options (j ++ (a :: acts).map .act) (s.proceed queue acts t) := by
      have seen : s.status = statusAfter j.history.outputs := by
        rw [run.status_eq, statusAfter_outputs]
      refine ih.proceed (Engine.running_of_step step) seen run'.orderly run.numbered.distinct
        Journal.began_act (by rw [Journal.history_act, silent]) fun ended => ?_
      by_cases mode : options.pollMode = .interval 0
      · exact .inl mode
      · exact .inr (offers (run.gone_of_ended mode step ended))
    cases step with
    | begin call held =>
      refine ih.begin run.orderly run.numbered call fun ended => ?_
      by_contra mode
      have gone := ((run.reported mode).quit ended).1
      rw [held] at gone
      cases gone
    | enter runs waits => exact ih.enter runs waits
    | dropClient | readEvents | dropEvents | wait => exact ih.same rfl rfl rfl rfl rfl
    | @serve x queue acts t offers step' =>
      refine goes (run.step (.serve offers step')) step' (fun is => ?_) rfl
      cases is
      have gone : s.held = false ∧ s.running = [] := by
        simpa [Session.clientsGone] using offers.2.1
      exact gone.2
    | answer time step' =>
      refine goes (run.step (.answer time step')) step' (fun is => ?_) rfl
      cases is

/-! ### What has returned -/

namespace Run

variable {s : Session Unit}

theorem began_of_finished (run : Session.Run options j s) (finished : (n, r) ∈ s.finished) :
    ∃ call, (n, call) ∈ j.began := by
  by_contra none
  have empty := congrArg Prod.snd (run.followed.unbegun n fun call began => none ⟨call, began⟩)
  have mem : (n, r) ∈ (s.entry n).2 := List.mem_filter.2 ⟨finished, by simp⟩
  rw [empty] at mem
  cases mem

/-- A call that returned did so once, for a reason, and runs no longer. -/
theorem concluded (run : Session.Run options j s) (began : (n, call) ∈ j.began)
    (finished : (n, r) ∈ s.finished) : s.entry n = ([], [(n, r)]) ∧
      Concluded j j.history.outputs (s.Crashed options) n call r := by
  have mem : (n, r) ∈ (s.entry n).2 := List.mem_filter.2 ⟨finished, by simp⟩
  cases run.followed.begun n call began with
  | pending _ entry | awaiting wants entry =>
    rw [entry] at mem
    cases mem
  | returned entry concluded =>
    rw [entry] at mem
    cases List.mem_singleton.1 mem
    exact ⟨entry, concluded⟩

theorem reply_eq (run : Session.Run options j s) {y z : Reply}
    (hy : .reply n y ∈ j.history.outputs) (hz : .reply n z ∈ j.history.outputs) : y = z := by
  obtain ⟨u, d⟩ := run.task.exists_deeds
  exact congrArg Prod.snd (List.inj_on_of_nodup_map (d.replied.once run.ticketed)
    (mem_replies.2 hy) (mem_replies.2 hz) rfl)

/-- A callback of a call that failed is told nothing. -/
theorem untold {e : RpcError} (run : Session.Run options j s) (sent : (n, .error e) ∈ j.sends) :
    j.history.told n = [] := by
  obtain ⟨u, d⟩ := run.task.exists_deeds
  refine List.filter_eq_nil_iff.2 fun x hx => ?_
  rw [decide_eq_true_eq]
  rintro rfl
  obtain ⟨m, method, params, asked⟩ := d.asked hx
  obtain rfl := run.ticketed.own m method params _ asked
  rcases List.mem_append.1 sent with refused | sent
  · obtain ⟨refusal, refused, is⟩ := List.mem_map.1 refused
    have queued : x.callback.token ∈ (s.orders j).map Prod.fst :=
      List.mem_map.2 ⟨_, List.mem_append_left _ asked, rfl⟩
    exact run.numbered.apart queued (List.mem_map.2 ⟨_, refused, congrArg Prod.fst is⟩)
  · have honours := d.honours _ _ (mem_sends.1 sent)
    obtain ⟨_, _, _, asked', dropped⟩ := honours.dropped e rfl
    cases run.ticketed.eq_of_mem asked' asked
    have count := d.count_le run.ticketed x.callback.token
    have told : 0 < (j.history.settlements.map fun x => x.callback.token).count x.callback.token :=
      List.count_pos_iff.2 (List.mem_map.2 ⟨x, hx, rfl⟩)
    have dropped : 0 < (j.history.discards.map Callback.token).count x.callback.token :=
      List.count_pos_iff.2 (List.mem_map_of_mem (dropped _ rfl))
    omega

end Run

/-! ### A call that waits -/

def timedOptions : Options := { requestTimeout := some 100, cancelPolicy := .drop }

/-- A session whose call 1 waits for its response. -/
def calling : Session Unit where
  engine := { Engine.new () timedOptions 0 with
    connection := { Connection.new timedOptions with
      state := .ready, channel := some sampleChannel, watching := true
      correlator := {
        policy := .drop, nextId := 2
        outstanding := [⟨.new 1 "ping" .null, { token := 1 }, 0⟩]
        ascending := List.pairwise_singleton _ _ }
      status := { state := .ready, peer := some "peer", outstanding := 1 } } }
  made := 2
  running := [⟨1, .call "ping" .null, .response⟩]
  channel.waiting :=
    [.stateChanged .connecting, .stateChanged .discovering, .stateChanged .ready]
  status := { state := .ready, peer := some "peer", outstanding := 1 }
  finished := [(0, .connected)]

theorem Run.calling : ∃ j, Session.Run timedOptions j .calling ∧
    (1, .call "ping" .null) ∈ j.began ∧ j.history.frames.length = 1 := by
  obtain ⟨j, connected, -, frames⟩ := Run.ready timedOptions (by decide) rfl
  have queued := connected.queue (.call "ping" .null) rfl rfl rfl (hasRoom_of_empty rfl)
  have writing := queued.step
    (.serve (x := .command 1 (.send "ping" .null (some { token := 1 }))) rfl (.take trivial))
  have written := writing.step
    (.answer (l := .write sampleChannel.inbox (Frame.encode (Request.new 1 "ping" .null).document))
      (a := ⟨0, .ok ()⟩) rfl (.answer _))
  refine ⟨_, written, List.mem_filterMap.2 ⟨.began 1 (.call "ping" .null), ?_, rfl⟩, ?_⟩
  · exact List.mem_append_left _
      (List.mem_append_left _ (List.mem_append_right _ List.mem_cons_self))
  · simp only [Journal.history_append, History.frames_append, frames]
    rfl

end Session

end GattRpc
