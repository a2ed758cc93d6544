import GattRpc.Proofs.Session.Runs

/-! # What calls return

A call returns what the task replied to its command or, if it wants the response, what its callback
came to (`ClientCall.Returns`). No call is left behind: the task ends only when none runs
(`Session.Run.reported`). -/

namespace GattRpc

/-- What a call may return after `j`. -/
inductive ClientCall.Returns (j : Journal) (n : Nat) : ClientCall → CallResult → Prop
  | connected (reply : (n, .connect (.ok ())) ∈ j.history.replies) : Returns j n .connect .connected
  | unconnected {e : RpcError} (reply : (n, .connect (.error e)) ∈ j.history.replies) :
    Returns j n .connect (.failed e)
  | sent {method : String} {params : Json} {callback : Option Callback} {id : RequestId}
    (sent : (n, .ok id) ∈ j.sends) : Returns j n (.send method params callback) (.sent id)
  | unsent {method : String} {params : Json} {callback : Option Callback} {e : RpcError}
    (sent : (n, .error e) ∈ j.sends) : Returns j n (.send method params callback) (.failed e)
  | uncalled {method : String} {params : Json} {e : RpcError} (sent : (n, .error e) ∈ j.sends) :
    Returns j n (.call method params) (.failed e)
  | answered {method : String} {params : Json} {x : Settlement} {r : Response}
    (told : x ∈ j.history.told n) (outcome : x.outcome = .answered r) :
    Returns j n (.call method params) (.answered r)
  | failed {method : String} {params : Json} {x : Settlement} {e : RpcError}
    (told : x ∈ j.history.told n) (outcome : x.outcome = .failed e) :
    Returns j n (.call method params) (.failed e)
  | dropped {method : String} {params : Json} {d : Callback} {e : RpcError}
    (dropped : d ∈ j.history.dropped n) : Returns j n (.call method params) (.failed e)
  | closed (reply : (n, .close) ∈ j.history.replies) : Returns j n .close .closed

/-- The calls that run were begun, as were those that returned, and none is left when the task
ends. -/
structure Session.Reported {L : Type} (j : Journal) (s : Session L) : Prop where
  running : ∀ r ∈ s.running, (r.number, r.call) ∈ j.began
  finished : ∀ n r, (n, r) ∈ s.finished → ∃ call, (n, call) ∈ j.began ∧ call.Returns j n r
  quit : s.engine.ended = true → s.held = false ∧ s.running = []

variable {L : Type} {options : Options} {j more : Journal} {s s' : Session L} {n : Nat}
  {call : ClientCall} {r : CallResult}

/-! ### Calls and their commands -/

namespace ClientCall

/-- A call that sends a request. -/
def Sends : ClientCall → Prop
  | .send _ _ _ | .call _ _ => True
  | .connect | .close => False

theorem eq_connect_of_answers {r : Except RpcError Unit}
    (answers : Reply.Answers (call.command n) (.connect r)) : call = .connect := by
  cases call with
  | connect => rfl
  | send | call | close => cases answers

theorem eq_close_of_answers (answers : Reply.Answers (call.command n) .close) : call = .close := by
  cases call with
  | close => rfl
  | connect | send | call => cases answers

theorem sends_of_answers {r : Except RpcError RequestId}
    (answers : Reply.Answers (call.command n) (.send r)) : call.Sends := by
  cases call with
  | send | call => trivial
  | connect | close => cases answers

end ClientCall

/-- A call is to queue its command, or it is refused. -/
theorem Session.begin_cases (s : Session L) (call : ClientCall) :
    (s.refusal? call = none ∧
      s.begin call = ({ s with made := s.made + 1 } : Session L).submit s.made call) ∨
    ∃ e, s.refusal? call = some e ∧ call.Sends ∧
      s.begin call = ({ s with made := s.made + 1 } : Session L).finish s.made (.failed e) := by
  rw [begin]
  cases refusal : s.refusal? call with
  | none => exact .inl ⟨rfl, rfl⟩
  | some e =>
    refine .inr ⟨e, rfl, ?_, rfl⟩
    cases call with
    | send | call => trivial
    | connect | close => cases refusal

/-! ### What happens later -/

namespace Journal

theorem mem_sends_append {r : Except RpcError RequestId} (sent : (n, r) ∈ j.sends) :
    (n, r) ∈ sends (j ++ more) := by
  rw [sends, refused_append, history_append, History.sends_append, List.map_append]
  rcases List.mem_append.1 sent with refused | sent
  · exact List.mem_append_left _ (List.mem_append_left _ refused)
  · exact List.mem_append_right _ (List.mem_append_left _ sent)

theorem mem_began_append {b : Nat × ClientCall} (began : b ∈ j.began) :
    b ∈ Journal.began (j ++ more) := by
  rw [began_append]
  exact List.mem_append_left _ began

theorem mem_replies_append {y : Nat × Reply} (reply : y ∈ j.history.replies) :
    y ∈ (history (j ++ more)).replies := by
  rw [history_append, History.replies_append]
  exact List.mem_append_left _ reply

theorem mem_told_append {x : Settlement} (told : x ∈ j.history.told n) :
    x ∈ (history (j ++ more)).told n := by
  rw [history_append, History.told, History.settlements_append, List.filter_append]
  exact List.mem_append_left _ told

theorem mem_dropped_append {d : Callback} (dropped : d ∈ j.history.dropped n) :
    d ∈ (history (j ++ more)).dropped n := by
  rw [history_append, History.dropped, History.discards_append, List.filter_append]
  exact List.mem_append_left _ dropped

end Journal

open Journal in
theorem ClientCall.Returns.append (returns : call.Returns j n r) :
    call.Returns (j ++ more) n r := by
  cases returns with
  | connected reply => exact .connected (mem_replies_append reply)
  | unconnected reply => exact .unconnected (mem_replies_append reply)
  | sent sent => exact .sent (mem_sends_append sent)
  | unsent sent => exact .unsent (mem_sends_append sent)
  | uncalled sent => exact .uncalled (mem_sends_append sent)
  | answered told outcome => exact .answered (mem_told_append told) outcome
  | failed told outcome => exact .failed (mem_told_append told) outcome
  | dropped dropped => exact .dropped (mem_dropped_append dropped)
  | closed reply => exact .closed (mem_replies_append reply)

/-! ### Taking note -/

namespace Session.Reported

theorem append (k : Reported j s) : Reported (j ++ more) s where
  running a ha := Journal.mem_began_append (k.running a ha)
  finished n r hr := by
    obtain ⟨call, began, returns⟩ := k.finished n r hr
    exact ⟨call, Journal.mem_began_append began, returns.append⟩
  quit := k.quit

theorem finish (k : Reported j s) (began : (n, call) ∈ j.began) (returns : call.Returns j n r) :
    Reported j (s.finish n r) where
  running a ha := k.running a (List.mem_of_mem_filter ha)
  finished m y hy := by
    rcases List.mem_append.1 hy with hy | hy
    · exact k.finished m y hy
    · cases List.mem_singleton.1 hy
      exact ⟨call, began, returns⟩
  quit ended := by
    obtain ⟨held, none⟩ := k.quit ended
    refine ⟨held, ?_⟩
    show s.running.filter _ = []
    rw [none]
    rfl

theorem await {stage : CallStage} (k : Reported j s) : Reported j (s.await n stage) where
  running a ha := by
    obtain ⟨b, hb, number, call⟩ := mem_await ha
    rw [← number, ← call]
    exact k.running b hb
  finished := k.finished
  quit ended := by
    obtain ⟨held, none⟩ := k.quit ended
    refine ⟨held, ?_⟩
    show s.running.map _ = []
    rw [none]
    rfl

/-- The request of a call is sent. The call returns unless it wants the response. -/
theorem accepted {id : RequestId} (k : Reported j s) (distinct : (j.began.map Prod.fst).Nodup)
    (began : (n, call) ∈ j.began) (sends : call.Sends) (sent : (n, .ok id) ∈ j.sends) :
    Reported j (s.note (.reply n (.send (.ok id)))) := by
  cases found : s.running.find? fun a => a.number = n with
  | none =>
    simp only [Session.note, found]
    exact k
  | some a =>
    have number : a.number = n := by simpa using List.find?_some found
    have began' := k.running a (List.mem_of_find?_eq_some found)
    rw [number] at began'
    obtain rfl : call = a.call := congrArg Prod.snd
      (List.inj_on_of_nodup_map distinct began began' rfl)
    obtain ⟨number', call, stage⟩ := a
    cases call with
    | call =>
      simp only [Session.note, found, RunningCall.wantsResponse, if_true]
      exact k.await
    | send =>
      simp only [Session.note, found, RunningCall.wantsResponse, Bool.false_eq_true, if_false]
      exact k.finish began (.sent sent)
    | connect | close => exact sends.elim

theorem reply {y : Reply} (k : Reported j s) (distinct : (j.began.map Prod.fst).Nodup)
    (began : (n, call) ∈ j.began) (answers : y.Answers (call.command n))
    (reply : (n, y) ∈ j.history.replies) : Reported j (s.note (.reply n y)) := by
  cases y with
  | connect r =>
    cases ClientCall.eq_connect_of_answers answers
    cases r with
    | ok => exact k.finish began (.connected reply)
    | error e => exact k.finish began (.unconnected reply)
  | close =>
    cases ClientCall.eq_close_of_answers answers
    exact k.finish began (.closed reply)
  | send r =>
    have sends := ClientCall.sends_of_answers answers
    have sent : (n, r) ∈ j.sends := List.mem_append_right _ (History.mem_sends.2 reply)
    cases r with
    | ok id => exact k.accepted distinct began sends sent
    | error e =>
      cases call with
      | send => exact k.finish began (.unsent sent)
      | call => exact k.finish began (.uncalled sent)
      | connect | close => exact sends.elim

/-- A callback that settles a running call is that of a call for a response. -/
theorem began_of_runningCall? {d : Callback} {a : RunningCall} (k : Reported j s)
    (found : s.runningCall? d = some a) :
    a.number = d.token ∧ ∃ method params, (a.number, .call method params) ∈ j.began := by
  have is := List.find?_some found
  rw [Bool.and_eq_true, decide_eq_true_eq] at is
  have began := k.running a (List.mem_of_find?_eq_some found)
  have wants := is.2
  unfold RunningCall.wantsResponse at wants
  split at wants
  next call =>
    rw [call] at began
    exact ⟨is.1, _, _, began⟩
  next => cases wants

theorem note {o : Output} (k : Reported j s) (distinct : (j.began.map Prod.fst).Nodup)
    (told : .tell o ∈ j.history)
    (answers : ∀ n y, (n, y) ∈ j.history.replies →
      ∃ call, (n, call) ∈ j.began ∧ y.Answers (call.command n)) :
    Reported j (s.note o) := by
  cases o with
  | shown | event => exact ⟨k.running, k.finished, k.quit⟩
  | settled x =>
    cases found : s.runningCall? x.callback with
    | none =>
      simp only [Session.note, found]
      exact ⟨k.running, k.finished, k.quit⟩
    | some a =>
      obtain ⟨number, method, params, began⟩ := k.began_of_runningCall? found
      have told : x ∈ j.history.told a.number := by
        refine List.mem_filter.2 ⟨?_, decide_eq_true number.symm⟩
        exact List.mem_filterMap.2 ⟨_, told, rfl⟩
      cases outcome : x.outcome with
      | answered response =>
        simp only [Session.note, found, outcome]
        exact k.finish began (.answered told outcome)
      | failed e =>
        simp only [Session.note, found, outcome]
        exact k.finish began (.failed told outcome)
  | discarded d =>
    cases found : s.runningCall? d with
    | none =>
      simp only [Session.note, found]
      exact k
    | some a =>
      obtain ⟨number, method, params, began⟩ := k.began_of_runningCall? found
      have dropped : d ∈ j.history.dropped a.number := by
        refine List.mem_filter.2 ⟨?_, decide_eq_true number.symm⟩
        exact List.mem_filterMap.2 ⟨_, told, rfl⟩
      obtain ⟨number, call, stage⟩ := a
      cases stage with
      | room | reply =>
        simp only [Session.note, found]
        exact k
      | response =>
        simp only [Session.note, found]
        exact k.finish began (.dropped dropped)
  | reply n y =>
    have reply : (n, y) ∈ j.history.replies := List.mem_filterMap.2 ⟨_, told, rfl⟩
    obtain ⟨call, began, answer⟩ := answers n y reply
    exact k.reply distinct began answer reply

theorem notes {out : List Output} (k : Reported j s) (distinct : (j.began.map Prod.fst).Nodup)
    (told : ∀ o ∈ out, .tell o ∈ j.history)
    (answers : ∀ n y, (n, y) ∈ j.history.replies →
      ∃ call, (n, call) ∈ j.began ∧ y.Answers (call.command n)) :
    Reported j (out.foldl Session.note s) := by
  induction out generalizing s with
  | nil => exact k
  | cons o out ih =>
    obtain ⟨first, rest⟩ := List.forall_mem_cons.1 told
    exact ih (k.note distinct first answers) rest

/-- When the task is over no call is left to end. -/
theorem endOrphans (k : Reported j s) : Reported j s.endOrphans := by
  unfold Session.endOrphans
  split
  next ended =>
    obtain ⟨held, none⟩ := k.quit ended
    refine ⟨nofun, fun n r hr => k.finished n r ?_, fun _ => ⟨held, rfl⟩⟩
    simpa [none] using hr
  next => exact k

/-- The task goes on to where it stands then. It ends only when no call runs. -/
theorem proceed {queue : List (Nat × Command)} {acts : History} {t : Standing} (k : Reported j s)
    (distinct : (j.began.map Prod.fst).Nodup) (told : ∀ a ∈ acts, a ∈ j.history)
    (answers : ∀ n y, (n, y) ∈ j.history.replies →
      ∃ call, (n, call) ∈ j.began ∧ y.Answers (call.command n))
    (quit : ({ s.engine with queue }.follow t).ended = true → s.held = false ∧ s.running = []) :
    Reported j (s.proceed queue acts t) := by
  unfold Session.proceed
  refine endOrphans (notes ⟨k.running, k.finished, quit⟩ distinct ?_ answers)
  intro o ho
  obtain ⟨a, ha, is⟩ := List.mem_filterMap.1 ho
  cases a with
  | tell => cases is; exact told _ ha
  | take | call | answer => cases is

/-- A call is to queue its command. The task is not over while a client is there. -/
theorem submit (k : Reported j s) (held : s.held = true) (began : (n, call) ∈ j.began) :
    Reported j (s.submit n call) := by
  refine endOrphans ⟨fun a ha => ?_, k.finished, fun ended => ?_⟩
  · rcases List.mem_append.1 ha with ha | ha
    · exact k.running a ha
    · cases List.mem_singleton.1 ha
      exact began
  · have gone := (k.quit ended).1
    rw [held] at gone
    cases gone

theorem begin (k : Reported j s) (held : s.held = true) (call : ClientCall) :
    Reported (j ++ .began s.made call :: (s.refusal? call).toList.map (.refused s.made))
      (s.begin call) := by
  obtain ⟨-, began, refused⟩ := s.records_begin call
  generalize Record.began s.made call :: (s.refusal? call).toList.map (.refused s.made) = more at *
  have began : (s.made, call) ∈ (j ++ more).began := by
    rw [Journal.began_append, began]
    exact List.mem_append_right _ List.mem_cons_self
  have k' : Reported (j ++ more) { s with made := s.made + 1 } :=
    ⟨k.append.running, k.append.finished, k.quit⟩
  have unsent {e : RpcError} (refusal : s.refusal? call = some e) :
      (s.made, .error e) ∈ (j ++ more).sends := by
    refine List.mem_append_left _ (List.mem_map.2 ⟨(s.made, e), ?_, rfl⟩)
    rw [Journal.refused_append, refused, refusal]
    exact List.mem_append_right _ List.mem_cons_self
  rcases s.begin_cases call with ⟨-, is⟩ | ⟨e, refusal, sends, is⟩
  · rw [is]
    exact k'.submit held began
  · rw [is]
    refine k'.finish began ?_
    cases call with
    | send => exact .unsent (unsent refusal)
    | call => exact .uncalled (unsent refusal)
    | connect | close => exact sends.elim

end Session.Reported

namespace Session.Run

variable {s : Session Unit}

theorem call_of_reply (mode : options.pollMode ≠ .interval 0) (run : Session.Run options j s)
    {y : Reply} (reply : (n, y) ∈ j.history.replies) :
    ∃ call, (n, call) ∈ j.began ∧ y.Answers (call.command n) := by
  obtain ⟨cmd, taken, answers⟩ := run.task.command_of_reply mode reply
  obtain ⟨call, began, rfl⟩ := run.numbered.ordered n cmd (List.mem_append_left _ taken)
  exact ⟨call, began, answers⟩

/-- The task ends only because its clients are gone. -/
theorem gone_of_ended (mode : options.pollMode ≠ .interval 0) (run : Session.Run options j s)
    {queue : List (Nat × Command)} {a : Act} {acts : History} {t : Standing}
    (step : s.engine.standing.Step (a :: acts) t)
    (ended : ({ s.engine with queue }.follow t).ended = true) : a = .take .clientsGone := by
  have running := Engine.running_of_step step
  cases t with
  | idle c | calling c l resume =>
    rw [show s.engine.ended = true from ended] at running
    cases running
  | ended c =>
    obtain ⟨rest, is⟩ := run.task.clientsGone_of_ended mode step
    exact (List.cons.inj is).1

/-- Every call returns what came of it, and none is left when the task ends. -/
theorem reported (mode : options.pollMode ≠ .interval 0) (run : Session.Run options j s) :
    s.Reported j := by
  induction run with
  | start opened =>
    obtain rfl := eq_of_open? opened
    exact ⟨nofun, nofun, nofun⟩
  | @step j more s s' run step ih =>
    have distinct := (run.step step).numbered.distinct
    have answers := fun n y => call_of_reply (n := n) (y := y) mode (run.step step)
    cases step with
    | begin call held => exact ih.begin held call
    | enter => exact Reported.await ⟨ih.append.running, ih.append.finished, ih.quit⟩
    | dropClient =>
      exact ⟨ih.append.running, ih.append.finished, fun ended => ⟨rfl, (ih.quit ended).2⟩⟩
    | readEvents | dropEvents | wait => exact ⟨ih.append.running, ih.append.finished, ih.quit⟩
    | @serve x queue acts t offers step =>
      refine ih.append.proceed distinct (fun a ha => ?_) answers fun ended => ?_
      · rw [Journal.history_append, Journal.history_act]
        exact List.mem_append_right _ (List.mem_cons_of_mem _ ha)
      · cases gone_of_ended mode run step ended
        simpa [Session.clientsGone] using offers.2.1
    | @answer l a acts t time step =>
      refine ih.append.proceed distinct (fun a ha => ?_) answers fun ended => ?_
      · rw [Journal.history_append, Journal.history_act]
        exact List.mem_append_right _ (List.mem_cons_of_mem _ ha)
      · cases gone_of_ended mode run step ended

end Session.Run

end GattRpc
