import GattRpc.Proofs.Connection.Failures
import GattRpc.Proofs.Session.Completion

/-! # No call is left without an answer

The task replies to each command that it takes, once. A call whose request was sent then waits for
what becomes of it, and its callback waits with it until it is told, or is dropped because the
connection was closed. The task ends when nobody is left who could call. So no call ever returns
that the task is gone (`Session.Run.attended`). -/

namespace GattRpc

open Connection History

/-- What a call for a response may return. -/
inductive CallResult.Completes : CallResult → Prop
  | answered {r : Response} : Completes (.answered r)
  | unsent {e : RpcError} (unsent : e.Unsent) : Completes (.failed e)
  | timedOut {id : RequestId} : Completes (.failed (.timedOut id))
  | cancelled {reason : CloseReason} : Completes (.failed (.cancelled reason))

namespace Session

variable {L : Type}

/-- How far a call is whose command was replied to: it has returned the reply or, if its request was
sent, what became of that, or it waits for the request that is outstanding. -/
inductive Attends (s : Session L) (n : Nat) (call : ClientCall) (y : Reply) : Prop
  | returned {r : CallResult} (entry : s.entry n = ([], [(n, r)]))
    (gives : (Output.reply n y).Gives n call r)
  | settled {method : String} {params : Json} {id : RequestId} {r : CallResult}
    (wants : call = .call method params) (sent : y = .send (.ok id))
    (entry : s.entry n = ([], [(n, r)]))
  | waits {method : String} {params : Json} {id : RequestId} {p : Pending}
    (wants : call = .call method params) (sent : y = .send (.ok id))
    (entry : s.entry n = ([⟨n, call, .response⟩], []))
    (outstanding : p ∈ s.engine.connection.correlator.outstanding) (token : p.callback.token = n)

/-- A session in which no command was left without an answer. -/
structure Attended (options : Options) (j : Journal) (s : Session Unit) : Prop where
  /-- All commands that were taken were replied to in order, but for the one that the task still
  carries out while it waits for the link. -/
  replied : ∃ u, RepliedBut u j.history ∧ (s.engine.waiting = none → u = none)
  once : (j.history.replies.map Prod.fst).Nodup
  attends : ∀ n call y, (n, call) ∈ j.began → (n, y) ∈ j.history.replies → s.Attends n call y
  returned : ∀ n call r, (n, call) ∈ j.began → (n, r) ∈ s.finished → s.entry n = ([], [(n, r)])
  /-- No call fails because the task is gone, unless ids have all been given out and another request
  took the place of its own. -/
  founded : ∀ n call r, (n, call) ∈ j.began → (n, r) ∈ s.finished → ¬ j.history.Displaces n →
    r ≠ .failed .shutdown ∧ ∀ method params, call = .call method params → r.Completes
  /-- With the same exception, a callback is dropped only if its request was not sent, or when the
  reason why the connection was closed can be seen already. -/
  dropped : ∀ (h : History) t, h <+: j.history → Connection.Run options h t →
    ∀ (before : History) (d : Callback), before ++ [.tell (.discarded d)] <+: h →
      ¬ h.Displaces d.token → (∃ e, (d.token, .error e) ∈ h.sends) ∨
        ∃ reason, before.status.closeReason = some reason
  /-- A reason that can be seen is seen whenever somebody looks later. -/
  seen : ∀ early late : History, early <+: late → late <+: j.history → ∀ reason,
    early.status.closeReason = some reason →
      late.status.closeReason = some reason ∧ s.status.closeReason = some reason
  /-- The task ends when no client is left, no call runs and no command is queued. -/
  quits : s.engine.ended = true → s.held = false ∧ s.running = [] ∧ s.engine.queue = []

end Session

variable {options : Options} {j : Journal} {s : Session Unit} {h : History} {c : Connection}
  {u : Option Stimulus} {n : Nat} {call : ClientCall} {r : CallResult} {y : Reply}

/-! ### Callbacks and errors -/

theorem History.mem_callbacks {method : String} {params : Json} {d : Callback}
    (asked : (n, .send method params (some d)) ∈ h.commands) : d ∈ h.callbacks := by
  obtain ⟨a, ha, is⟩ := List.mem_filterMap.1 asked
  unfold Act.command? at is
  split at is
  · cases is
    exact List.mem_filterMap.2 ⟨_, ha, rfl⟩
  · cases is

/-- A callback that was given with a command waits after the reply, unless it was let go. -/
theorem Connection.Deeds.exists_pending {method : String} {params : Json} {d : Callback}
    (deeds : Deeds options u h c) (k : Ticketed h)
    (asked : (n, .send method params (some d)) ∈ h.commands) (reply : (n, y) ∈ h.replies)
    (unreleased : ∀ o ∈ h.outputs, ¬ o.Releases n) :
    ∃ p ∈ c.correlator.outstanding, p.callback.token = n := by
  have token : d.token = n := k.own n method params d asked
  have place := deeds.conserved.mem_iff.1 (mem_callbacks asked)
  simp only [List.mem_append] at place
  rcases place with ((waits | told) | dropped) | held
  · obtain ⟨p, hp, rfl⟩ := List.mem_map.1 waits
    exact ⟨p, hp, token⟩
  · obtain ⟨x, hx, rfl⟩ := List.mem_map.1 told
    exact (unreleased _ (mem_settlements.1 hx) token).elim
  · exact (unreleased _ (mem_discards.1 dropped) token).elim
  · -- It is in hand only while its command has still to be replied to.
    obtain ⟨x, rfl, given⟩ := Option.bind_eq_some_iff.1 (Option.mem_toList.1 held)
    cases x with
    | command m cmd =>
      cases cmd with
      | send method' params' callback =>
        obtain rfl : callback = some d := given
        obtain rfl : d.token = m := k.own m _ _ d (mem_commands (deeds.taken _ rfl))
        rw [token] at deeds
        exact (deeds.replied.not_owed k reply List.mem_cons_self).elim
      | connect | close => cases given
    | clientsGone | linkLost | poll | sweep => cases given

namespace CallResult

/-- What is founded for a reply is no sign that the task is gone. -/
theorem ne_shutdown_of_unconnected {e : RpcError} (k : e.Unconnected) :
    CallResult.failed e ≠ .failed .shutdown := by
  rintro ⟨⟩
  cases k with
  | unsent unsent => cases unsent

theorem Completes.ne_shutdown (k : r.Completes) : r ≠ .failed .shutdown := by
  rintro rfl
  cases k with
  | unsent unsent => cases unsent

end CallResult

namespace Session

theorem refusal?_eq {e : RpcError} (refusal : s.refusal? call = some e) :
    e = .notReady s.status.state := by
  cases call with
  | connect | close => cases refusal
  | send | call =>
    simp only [refusal?] at refusal
    split at refusal
    · cases refusal
    · exact (Option.some.inj refusal).symm

namespace Run

theorem refused_notReady (run : Session.Run options j s) {e : RpcError}
    (refused : (n, e) ∈ j.refused) : ∃ state, e = .notReady state := by
  induction run with
  | start => cases refused
  | @step j more s s' run step ih =>
    rw [Journal.refused_append] at refused
    rcases List.mem_append.1 refused with refused | refused
    · exact ih refused
    · cases step.orders j with
      | begin call _ _ journal =>
        subst journal
        have refusal : s.refusal? call = some e := by
          cases is : s.refusal? call with
          | none =>
            rw [is] at refused
            cases refused
          | some e' =>
            rw [is] at refused
            cases List.mem_singleton.1 refused
            rfl
        exact ⟨_, refusal?_eq refusal⟩
      | enter r _ _ journal =>
        subst journal
        cases refused
      | same _ _ _ _ none =>
        rw [none] at refused
        cases refused

/-- The queue is empty when the task ends, and nobody is left to fill it. -/
theorem queue_of_ended (mode : options.pollMode ≠ .interval 0) (run : Session.Run options j s) :
    s.engine.ended = true → s.engine.queue = [] := by
  induction run with
  | start opened =>
    obtain rfl := eq_of_open? opened
    exact nofun
  | @step j more s s' run step ih =>
    intro ended
    cases step with
    | begin call held =>
      rw [(begin_eq call).2] at ended
      have gone := ((run.reported mode).quit ended).1
      rw [held] at gone
      cases gone
    | enter runs =>
      have gone := ((run.reported mode).quit ended).2
      rw [gone] at runs
      cases runs
    | dropClient | readEvents | dropEvents | wait => exact ih ended
    | serve offers step =>
      rw [proceed_eq.1] at ended ⊢
      cases run.gone_of_ended mode step ended
      rw [Engine.follow_queue]
      exact offers.2.2
    | answer time step =>
      rw [proceed_eq.1] at ended
      cases run.gone_of_ended mode step ended

section

variable (mode : options.pollMode ≠ .interval 0) (run : Session.Run options j s)

include run

theorem founded_of_settled {x : Settlement} {e : RpcError}
    (told : .settled x ∈ j.history.outputs) (outcome : x.outcome = .failed e) :
    CallResult.Completes (.failed e) := by
  obtain ⟨u, deeds⟩ := run.task.exists_deeds
  have founded := deeds.outcome_founded told
  rw [outcome] at founded
  cases founded with
  | timedOut => exact .timedOut
  | cancelled => exact .cancelled

include mode

/-- A reply is to the command of its call. -/
theorem asked_of_reply (began : (n, call) ∈ j.began) (reply : (n, y) ∈ j.history.replies) :
    (n, call.command n) ∈ j.history.commands := by
  obtain ⟨cmd, taken, -⟩ := run.task.command_of_reply mode reply
  obtain ⟨call', began', rfl⟩ := run.numbered.ordered n cmd (List.mem_append_left _ taken)
  obtain rfl : call' = call := congrArg Prod.snd
    (List.inj_on_of_nodup_map run.numbered.distinct began' began rfl)
  exact taken

/-- A call whose command was replied to has returned, or its request is outstanding. -/
theorem attends (began : (n, call) ∈ j.began) (reply : (n, y) ∈ j.history.replies) :
    s.Attends n call y := by
  have replied := mem_replies.1 reply
  have sent_of_settled {x : Settlement} (told : .settled x ∈ j.history.outputs)
      (token : x.callback.token = n) : y = .send (.ok x.request.id) := by
    obtain ⟨before, after, is⟩ := List.append_of_mem told
    have early : before ++ [.settled x] <+: j.history.outputs := ⟨after, by simp [is]⟩
    have sent := run.orderly.settled before x early
    rw [token] at sent
    exact run.reply_eq replied (early.subset (List.mem_append_left _ sent))
  cases run.followed.begun n call began with
  | pending _ entry unreplied => exact (unreplied y replied).elim
  | awaiting wants entry sent unreleased =>
    have asked := asked_of_reply mode run began reply
    rw [wants] at asked
    obtain ⟨u, deeds⟩ := run.task.exists_deeds
    obtain ⟨p, outstanding, token⟩ := deeds.exists_pending run.ticketed asked reply unreleased
    rw [Engine.connection_standing] at outstanding
    exact .waits wants (run.reply_eq replied sent) entry outstanding token
  | returned entry concluded =>
    cases concluded with
    | refused refused => exact (run.orderly.refused n _ y refused replied).elim
    | told told gives =>
      cases gives with
      | connected =>
        cases run.reply_eq replied told
        exact .returned entry .connected
      | unconnected =>
        cases run.reply_eq replied told
        exact .returned entry .unconnected
      | sent =>
        cases run.reply_eq replied told
        exact .returned entry .sent
      | unsent sends =>
        cases run.reply_eq replied told
        exact .returned entry (.unsent sends)
      | closed =>
        cases run.reply_eq replied told
        exact .returned entry .closed
      | answered token => exact .settled rfl (sent_of_settled told token) entry
      | failed token => exact .settled rfl (sent_of_settled told token) entry
    | cancelled wants _ _ sent => exact .settled wants (run.reply_eq replied sent) entry
    | displaced wants _ _ sent => exact .settled wants (run.reply_eq replied sent) entry
    | orphaned crashed => exact (mode crashed.2).elim

/-- No call returns that the task is gone. -/
theorem founded (began : (n, call) ∈ j.began) (finished : (n, r) ∈ s.finished)
    (kept : ¬ j.history.Displaces n) :
    r ≠ .failed .shutdown ∧ ∀ method params, call = .call method params → r.Completes := by
  have completes (k : r.Completes) :
      r ≠ .failed .shutdown ∧ ∀ method params, call = .call method params → r.Completes :=
    ⟨k.ne_shutdown, fun _ _ _ => k⟩
  obtain ⟨-, concluded⟩ := run.concluded began finished
  cases concluded with
  | refused refused sends is =>
    obtain ⟨state, rfl⟩ := run.refused_notReady refused
    exact completes (is ▸ .unsent .notReady)
  | told told gives =>
    cases gives with
    | connected | sent | closed => exact ⟨nofun, nofun⟩
    | unconnected =>
      have founded := run.task.reply_founded told _ rfl
      exact ⟨CallResult.ne_shutdown_of_unconnected founded, nofun⟩
    | unsent sends => exact completes (.unsent (run.task.reply_founded told _ rfl))
    | answered => exact completes .answered
    | failed token outcome => exact completes (founded_of_settled run told outcome)
  | cancelled wants dropped token sent recorded is => exact completes (is ▸ .cancelled)
  | displaced wants dropped token sent displaces is => exact (kept displaces).elim
  | orphaned crashed => exact (mode crashed.2).elim

end

/-- In a session that polls with a pause no command is left without its answer. -/
theorem attended (mode : options.pollMode ≠ .interval 0) (run : Session.Run options j s) :
    s.Attended options j where
  replied := by
    obtain ⟨u, deeds⟩ := run.task.exists_deeds
    by_cases idle : s.engine.waiting = none
    · have resting := run.task.resting mode (Engine.isCalling_standing idle)
      exact ⟨none, resting.deeds.replied, fun _ => rfl⟩
    · exact ⟨u, deeds.replied, fun none => (idle none).elim⟩
  once := by
    obtain ⟨u, deeds⟩ := run.task.exists_deeds
    exact deeds.replied.once run.ticketed
  attends n call y began reply := attends mode run began reply
  returned n call r began finished := (run.concluded began finished).1
  founded n call r began finished kept := founded mode run began finished kept
  dropped h t early run' before d dropped kept := by
    obtain ⟨more, is⟩ := early
    have ticketed : Ticketed (h ++ more) := is ▸ run.ticketed
    rcases run'.excused ticketed.left dropped with failed | seen | displaces
    · exact .inl failed
    · exact .inr (Option.isSome_iff_exists.1 seen)
    · exact (kept displaces).elim
  seen early late first whole reason seen := by
    refine ⟨run.task.seen_stays first whole seen, ?_⟩
    rw [run.status_eq]
    exact run.task.seen_stays (first.trans whole) List.prefix_rfl seen
  quits ended := by
    obtain ⟨gone, idle⟩ := (run.reported mode).quit ended
    exact ⟨gone, idle, run.queue_of_ended mode ended⟩

/-- A call waits while its client closes the connection and goes. It returns why the connection was
closed, and then the task ends. -/
theorem attended_ended : ∃ j s, Session.Run timedOptions j s ∧
    timedOptions.cancelPolicy = .drop ∧ s.engine.ended = true ∧
      j.history.frames.length < UInt64.size ∧ (1, .call "ping" .null) ∈ j.began ∧
        (1, .failed (.cancelled .requested)) ∈ s.finished ∧ (2, .closed) ∈ s.finished ∧
          s.Attended timedOptions j := by
  obtain ⟨j, calling, began, frames⟩ := Session.Run.calling
  have queued := calling.queue .close rfl rfl rfl (hasRoom_of_empty rfl)
  have closing := queued.step (.serve (x := .command 2 .close) rfl (.take trivial))
  have closed := closing.step
    (.answer (l := .disconnect) (a := ⟨0, .error .disconnected⟩) rfl (.answer _))
  have gone := closed.step .dropClient
  have ended := gone.step (.serve (x := .clientsGone) ⟨rfl, rfl, rfl⟩ (.take trivial))
  refine ⟨_, _, ended, rfl, rfl, ?_, ?_, ?_, ?_, ended.attended (by decide)⟩
  · simp only [Journal.history_append, frames_append, List.length_append, frames]
    exact (by decide : 1 < UInt64.size)
  · simp only [Journal.began_append]
    repeat refine List.mem_append_left _ ?_
    exact began
  · exact List.mem_cons_of_mem _ List.mem_cons_self
  · exact List.mem_cons_of_mem _ (List.mem_cons_of_mem _ List.mem_cons_self)

end Run

end Session

end GattRpc
