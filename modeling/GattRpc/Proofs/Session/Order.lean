import GattRpc.Proofs.Connection.Order
import GattRpc.Proofs.Session.Completion

/-! # The order of calls

Commands are carried out in the order in which calls queued them. What a call
to send returns is the id of its own request, and a call to close returns once the connection is
closed (`Connection.Run.inOrder`). A task that is to poll without a pause crashes before that. -/

namespace GattRpc

open Connection History

/-- How often a number is that of a call that queued its command, was refused or waits for room. -/
def Session.places {L : Type} (s : Session L) (j : Journal) (n : Nat) : Nat :=
  (j.queued.map Prod.fst).count n + (j.refused.map Prod.fst).count n +
    (s.queueing.map RunningCall.number).count n

/-- What calls return fits the order in which they queued their commands. -/
structure Session.InOrder (options : Options) (j : Journal) (s : Session Unit) : Prop where
  /-- Commands are taken in the order in which they were queued, each by its call. -/
  queued : s.orders j = j.queued
  own : ∀ n c, (n, c) ∈ j.queued → ∃ call, (n, call) ∈ j.began ∧ c = call.command n
  /-- A call queues its command once, or it is refused, or it still waits for room. Only a task that
  crashed leaves others behind. -/
  once : ∀ n call, (n, call) ∈ j.began →
    s.places j n = 1 ∨ s.places j n = 0 ∧ s.Crashed options
  sent : ∀ n id, (n, .sent id) ∈ s.finished ↔ (n, .ok id) ∈ j.history.sends ∧
    ∃ method params callback, (n, .send method params callback) ∈ j.began
  /-- The callback of a call that is rejected is told nothing, whether or not it was queued. -/
  rejected : ∀ n state, (n, .error (.notReady state)) ∈ j.sends → j.history.told n = []
  closed : options.pollMode ≠ .interval 0 → ∀ n, (n, .closed) ∈ s.finished →
    s.engine.connection.state = .closed ∧ s.status.state = .closed ∧
      s.engine.connection.correlator.outstanding = [] ∧ ∀ d ∈ j.history.callbacks,
        d ∈ j.history.settlements.map Settlement.callback ∨ d ∈ j.history.discards

variable {options : Options} {j : Journal} {s : Session Unit} {n : Nat}

namespace Session.Run

/-- The queue never holds more commands than it was made for, which is one at least. -/
theorem length_queue_le (run : Session.Run options j s) :
    s.engine.queue.length ≤ max 1 options.commandQueue := by
  induction run with
  | start opened =>
    obtain rfl := eq_of_open? opened
    exact Nat.zero_le _
  | @step j more s s' run step ih =>
    cases step with
    | begin call =>
      rw [(begin_eq call).2]
      exact ih
    | enter runs waits room =>
      obtain ⟨u, deeds⟩ := run.task.exists_deeds
      have configured := deeds.configured
      rw [Engine.connection_standing] at configured
      rw [hasRoom, configured] at room
      exact Nat.le_trans (Nat.le_of_eq List.length_append) room
    | dropClient | readEvents | dropEvents | wait => exact ih
    | @serve x queue acts t offers step =>
      rw [proceed_eq.1, Engine.follow_queue]
      refine Nat.le_trans ?_ ih
      cases x with
      | command ticket c =>
        rw [show s.engine.queue = (ticket, c) :: queue from offers]
        exact Nat.le_succ _
      | clientsGone =>
        rw [offers.2.2]
        exact Nat.zero_le _
      | sweep now => exact Nat.le_of_eq (congrArg _ offers.2)
      | linkLost | poll tick => exact Nat.le_of_eq (congrArg _ offers)
    | answer time step =>
      rw [proceed_eq.1, Engine.follow_queue]
      exact ih

/-- A call that waits for the reply has queued its command. -/
theorem queued_of_reply (run : Session.Run options j s) :
    ∀ a ∈ s.callsAt .reply, a.number ∈ (s.orders j).map Prod.fst := by
  induction run with
  | start opened =>
    obtain rfl := eq_of_open? opened
    exact nofun
  | @step j more s s' run step ih =>
    intro a ha
    cases step.orders j with
    | begin call _ is journal =>
      subst is journal
      rw [orders_begin]
      rcases List.mem_append.1 ((callsAt_begin call).subset ha) with ha | ha
      · exact ih a ha
      · cases refusal : s.refusal? call <;> simp [refusal] at ha
    | enter r _ is journal =>
      subst is journal
      rw [orders_enter, List.map_append]
      obtain ⟨runs, waits⟩ := List.mem_filter.1 ha
      by_cases own : a.number = r.number
      · exact List.mem_append_right _ (List.mem_singleton.2 own)
      · exact List.mem_append_left _ (ih a (List.mem_filter.2 ⟨mem_of_mem_await runs own, waits⟩))
    | same _ orders calls =>
      rw [orders]
      exact ih a ((calls .reply (by simp)).subset ha)

/-- A call has queued its command, was refused, waits for room, or was left behind. -/
theorem placed (run : Session.Run options j s) {call : ClientCall} (began : (n, call) ∈ j.began) :
    n ∈ (s.orders j).map Prod.fst ++ j.refused.map Prod.fst ++
      s.queueing.map RunningCall.number ∨ s.Crashed options := by
  have queued (ordered : n ∈ (s.orders j).map Prod.fst) : n ∈ (s.orders j).map Prod.fst ++
      j.refused.map Prod.fst ++ s.queueing.map RunningCall.number :=
    List.mem_append_left _ (List.mem_append_left _ ordered)
  have replied {y : Reply} (told : .reply n y ∈ j.history.outputs) :
      n ∈ (s.orders j).map Prod.fst := by
    obtain ⟨u, d⟩ := run.task.exists_deeds
    obtain ⟨c, taken, -⟩ := (d.honours n y (mem_replies.2 told)).taken
    exact List.mem_map.2 ⟨(n, c), List.mem_append_left _ taken, rfl⟩
  cases run.followed.begun n call began with
  | @pending stage early entry =>
    have runs : ⟨n, call, stage⟩ ∈ s.running :=
      (List.mem_filter.1 (show _ ∈ (s.entry n).1 by rw [entry]; exact List.mem_cons_self)).1
    cases stage with
    | room =>
      exact .inl (List.mem_append_right _ (List.mem_map.2 ⟨_, List.mem_filter.2 ⟨runs, rfl⟩, rfl⟩))
    | reply => exact .inl (queued (run.queued_of_reply _ (List.mem_filter.2 ⟨runs, rfl⟩)))
    | response => exact (early rfl).elim
  | awaiting _ _ sent => exact .inl (queued (replied sent))
  | returned _ concluded =>
    cases concluded with
    | refused refused =>
      exact .inl (List.mem_append_left _ (List.mem_append_right _ (List.mem_map_of_mem refused)))
    | told told gives =>
      have settled {x : Settlement} (told : .settled x ∈ j.history.outputs)
          (token : x.callback.token = n) : n ∈ (s.orders j).map Prod.fst := by
        obtain ⟨before, after, is⟩ := List.append_of_mem told
        have early : before ++ [.settled x] <+: j.history.outputs := ⟨after, by simp [is]⟩
        have sent := run.orderly.settled before x early
        rw [token] at sent
        exact replied (early.subset (List.mem_append_left _ sent))
      cases gives with
      | answered token => exact .inl (queued (settled told token))
      | failed token => exact .inl (queued (settled told token))
      | connected | unconnected | sent | unsent | closed => exact .inl (queued (replied told))
    | cancelled _ _ _ sent => exact .inl (queued (replied sent))
    | displaced _ _ _ sent => exact .inl (queued (replied sent))
    | orphaned crashed => exact .inr crashed

theorem once (run : Session.Run options j s) {call : ClientCall} (began : (n, call) ∈ j.began) :
    s.places j n = 1 ∨ s.places j n = 0 ∧ s.Crashed options := by
  rw [places, ← run.queued, ← List.count_append, ← List.count_append]
  by_cases placed : n ∈ (s.orders j).map Prod.fst ++ j.refused.map Prod.fst ++
      s.queueing.map RunningCall.number
  · exact .inl (List.count_eq_one_of_mem run.numbered.once placed)
  · exact .inr ⟨List.count_eq_zero_of_not_mem placed, (run.placed began).resolve_left placed⟩

theorem sent (run : Session.Run options j s) {id : RequestId} :
    (n, .sent id) ∈ s.finished ↔ (n, .ok id) ∈ j.history.sends ∧
      ∃ method params callback, (n, .send method params callback) ∈ j.began := by
  constructor
  · intro finished
    obtain ⟨call, began⟩ := run.began_of_finished finished
    cases (run.concluded began finished).2 with
    | refused _ _ is | cancelled _ _ _ _ _ is | displaced _ _ _ _ _ is => cases is
    | told told gives =>
      cases gives
      exact ⟨mem_sends.2 (mem_replies.2 told), _, _, _, began⟩
    | orphaned _ unsent => exact (unsent id rfl).elim
  · rintro ⟨sent, method, params, callback, began⟩
    have replied : .reply n (.send (.ok id)) ∈ j.history.outputs := mem_replies.1 (mem_sends.1 sent)
    cases run.followed.begun n _ began with
    | pending _ _ unreplied => exact (unreplied _ replied).elim
    | awaiting wants => cases wants
    | @returned r entry concluded =>
      have finished : (n, r) ∈ s.finished := by
        have mem : (n, r) ∈ (s.entry n).2 := by rw [entry]; exact List.mem_cons_self
        exact (List.mem_filter.1 mem).1
      cases concluded with
      | refused refused => exact (run.orderly.refused _ _ _ refused replied).elim
      | told told gives =>
        cases gives with
        | sent =>
          cases run.reply_eq told replied
          exact finished
        | unsent => cases run.reply_eq told replied
      | cancelled wants | displaced wants => cases wants
      | orphaned _ _ unreplied => exact (unreplied _ _ _ rfl _ replied).elim

theorem closed (mode : options.pollMode ≠ .interval 0) (run : Session.Run options j s)
    (finished : (n, .closed) ∈ s.finished) :
    s.engine.connection.state = .closed ∧ s.status.state = .closed ∧
      s.engine.connection.correlator.outstanding = [] ∧ ∀ d ∈ j.history.callbacks,
        d ∈ j.history.settlements.map Settlement.callback ∨ d ∈ j.history.discards := by
  obtain ⟨call, began, returns⟩ := (run.reported mode).finished n _ finished
  cases returns with
  | closed reply =>
    have closed := run.task.closed_of_replied mode (mem_replies.1 reply)
    have agrees := run.task.agrees
    have idle := (run.task.awaits_stimulus mode closed).2
    have conserved := (run.task.resting mode idle).deeds.conserved
    rw [Engine.connection_standing] at closed agrees conserved
    have empty := agrees.requests (by rw [closed]; nofun)
    refine ⟨closed, run.status_connection ▸ agrees.state.trans closed, empty, ?_⟩
    intro d hd
    have placed := conserved.mem_iff.1 hd
    rw [empty] at placed
    simpa [inHand] using placed

end Session.Run

/-- Commands take effect one after the other in the order of their calls. Requests are numbered in
that order, and to close is a barrier. -/
theorem Connection.Run.inOrder {h : History} {t : Standing} (run : Connection.Run options h t)
    (room : h.frames.length < UInt64.size) :
    h.Ordered ∧ ∀ j s, Session.Run options j s → j.history = h → s.InOrder options j := by
  refine ⟨run.ordered room, ?_⟩
  intro j s session is
  subst is
  exact
    { queued := session.queued
      own := fun n c queued => session.numbered.ordered n c (session.queued ▸ queued)
      once := fun n call began => session.once began
      sent := fun n id => session.sent
      rejected := fun n state sent => session.untold sent
      closed := fun mode n finished => session.closed mode finished }

/-- A session whose last request is queued behind a call to close. -/
theorem Connection.Run.inOrder_closed : ∃ j s, Session.Run Session.timedOptions j s ∧
    j.history.frames.length = 1 ∧ (2, .closed) ∈ s.finished ∧
      (3, .failed (.notReady .closed)) ∈ s.finished ∧ j.history.Ordered ∧
        s.InOrder Session.timedOptions j := by
  obtain ⟨j, calling, -, frames⟩ := Session.Run.calling
  have queued := calling.queue .close rfl rfl rfl (Session.hasRoom_of_empty rfl)
  have queued := queued.queue (.send "late" .null none) rfl rfl rfl (by decide)
  have closing := queued.step
    (.serve (x := .command 2 .close) rfl (.take trivial))
  have closed := closing.step (.answer (l := .disconnect) (a := ⟨0, .ok ()⟩) rfl (.answer _))
  have rejected := closed.step
    (.serve (x := .command 3 (.send "late" .null none)) rfl (.take trivial))
  obtain ⟨ordered, inOrder⟩ := rejected.task.inOrder <| by
    simp only [Journal.history_append, History.frames_append, List.length_append, frames]
    exact (by decide : 1 < UInt64.size)
  refine ⟨_, _, rejected, ?_, ?_, ?_, ordered, inOrder _ _ rejected rfl⟩
  · simp only [Journal.history_append, History.frames_append, List.length_append, frames]
    rfl
  · exact List.mem_cons_of_mem _ (List.mem_cons_of_mem _ List.mem_cons_self)
  · exact List.mem_append_right _ List.mem_cons_self

/-- To poll without a pause makes the task crash. Then to close returns at once. -/
theorem Session.Run.exists_closed_discovering :
    let options : Options := { pollMode := .interval 0 }
    ∃ j s, Session.Run options j s ∧ j.history.frames.length < UInt64.size ∧
      (1, .close) ∈ j.began ∧ (1, .closed) ∈ s.finished ∧
        s.engine.connection.state = .discovering := by
  intro options
  have opened : Session.Run options [] { engine := .new () options 0 } := .start rfl
  have connecting := (opened.queue .connect rfl rfl rfl (Session.hasRoom_of_empty rfl)).step
    (.serve (x := .command 0 .connect) rfl (.take trivial))
  have discovering := connecting.step
    (.answer (l := .connect) (a := ⟨0, .ok "peer"⟩) rfl (.answer _))
  have crashed := discovering.step
    (.answer (l := .discover) (a := ⟨0, .ok
      [⟨rpcService, [sampleChannel.inbox, sampleChannel.pollSignal]⟩]⟩) rfl (.answer _))
  have closed := crashed.step (.begin .close rfl)
  exact ⟨_, _, closed, by decide +kernel, List.mem_cons_of_mem _ List.mem_cons_self,
    by decide +kernel, by decide +kernel⟩

end GattRpc
