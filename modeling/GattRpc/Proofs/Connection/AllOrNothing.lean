import GattRpc.Proofs.Connection.Transfers
import GattRpc.Session.Engine

/-! # Calls that fail leave all or nothing

When a write or a read fails on a connection that is ready, either the link is gone and everything
is closed, or nothing has changed but the error that is shown, the count of the signal that led to
the call, and the id of the request that was not written (`Connection.Run.allOrNothing`). -/

namespace GattRpc

/-- How many ids a call uses up. -/
def LinkCall.ids : LinkCall → RequestId
  | write _ _ => 1
  | connect | discover | subscribe _ | read _ | disconnect => 0

/-- What is told last of a stimulus whose call failed. The callback of a request that was not
written is dropped, and its sender is given the error. -/
def Stimulus.lastWords (e : LinkError) : Stimulus → List Output
  | .command n (.send _ _ callback) => Connection.unsent n callback e
  | _ => []

namespace Connection

/-- What becomes of the callbacks of all outstanding requests, in whatever order the table gives
them up. -/
def partings (c : Connection) (reason : CloseReason) : List Output :=
  let drained := c.options.drain.order c.correlator.outstanding
  match c.correlator.policy with
  | .notify => drained.map fun p => .settled (p.settle (.failed (.cancelled reason)))
  | .drop => drained.map fun p => .discarded p.callback

/-- How the reaction of a connection that was `c` goes on when its call fails. By then `signals` are
counted and `nextId` is the next id. -/
structure AllOrNothing (c : Connection) (signals : SignalTally) (nextId : RequestId)
    (last : LinkError → List Output) {l : LinkCall} (resume : LinkAnswer l → Progress Unit) :
    Prop where
  /-- An error that leaves the link usable is shown, and nothing else is changed. -/
  nothing : ∀ time e, e ≠ .notConnected → e ≠ .disconnected →
    resume ⟨time, .error e⟩ = .done ()
      { c with
        signals
        correlator := { c.correlator with nextId }
        status := { c.status with lastError := some e.message } }
      (.shown { c.status with lastError := some e.message } :: last e)
  /-- If the link is gone, then it is disconnected, and whatever comes of that everything is
  closed. The reason is shown before any callback is released. -/
  all : ∀ time e, e = .notConnected ∨ e = .disconnected →
    let reason := CloseReason.transportFailure e.message
    let shown := { c.status with lastError := some e.message }
    ∃ d resume' c', resume ⟨time, .error e⟩ = .waiting d [.shown shown] .disconnect resume' ∧
      (∀ a, resume' a = .done () c' (.shown { shown with closeReason := some reason } ::
        (c.partings reason ++
          [.shown { shown with closeReason := some reason, outstanding := 0 }, .shown c'.status,
            .event (.stateChanged .closed), .event (.closed reason)]) ++ last e)) ∧
      c'.state = .closed ∧ c'.correlator.outstanding = [] ∧
      c'.status =
        { c.status with
          state := .closed
          lastError := some e.message
          closeReason := some reason
          outstanding := 0 }
  /-- The timers run on as they did, unless the link is gone. -/
  timers : ∀ {L : Type} (engine : Engine L) (now later : Nat) (shown : LinkStatus),
    engine.connection = c → engine.adjustTimers now = engine →
      let engine' := { engine with connection :=
        { c with signals, correlator := { c.correlator with nextId }, status := shown } }
      engine'.adjustTimers later = engine'

variable {c d : Connection} {x : Stimulus}

theorem released_eq_partings {reason : CloseReason} : c.released reason = c.partings reason := by
  rw [released_eq]
  unfold parting partings
  cases c.correlator.policy <;> rfl

/-- Before the answer of a call that carries bytes, signals were counted and an id was used up. -/
theorem Transfers.eq {channel : Channel} {part : History} {l : LinkCall}
    {resume : LinkAnswer l → Progress Unit} (t : c.Transfers channel x part d l resume)
    (pollSignal : channel.pollSignal.uuid = pollSignalUuid) :
    d = { c with
      signals := (History.signals (.take x :: part)).foldl SignalTally.count c.signals
      correlator := { c.correlator with nextId := c.correlator.nextId + l.ids } } := by
  have unused : c.correlator.nextId + 0 = c.correlator.nextId := UInt64.add_zero _
  cases t with
  | write => rfl
  | notified =>
    simp only [LinkCall.ids, unused]
    rfl
  | probe =>
    simp only [LinkCall.ids, unused]
    rfl
  | @probed payload _ time =>
    have brought : History.signals [.take (.poll .due), .call (.read channel.pollSignal),
        .answer (.read channel.pollSignal) ⟨time, .ok payload⟩] = [payload] :=
      List.filterMap_cons_some (Act.signal?_read pollSignal)
    simp only [LinkCall.ids, unused]
    exact congrArg (fun s => { c with signals := s.foldl SignalTally.count c.signals }) brought.symm

theorem Transfers.fails {channel : Channel} {part : History} {l : LinkCall}
    {resume : LinkAnswer l → Progress Unit} (t : c.Transfers channel x part d l resume) :
    ∀ time e, resume ⟨time, .error e⟩ = d.givesUp e (x.lastWords e) := by
  cases t <;> assumption

theorem AllOrNothing.of_givesUp {signals : SignalTally} {nextId : RequestId}
    {last : LinkError → List Output} {l : LinkCall} {resume : LinkAnswer l → Progress Unit}
    (ready : c.state = .ready) (is : d = { c with
      signals, correlator := { c.correlator with nextId } })
    (fails : ∀ time e, resume ⟨time, .error e⟩ = d.givesUp e (last e)) :
    c.AllOrNothing signals nextId last resume where
  nothing time e connected alive := by
    have harmless : e.isFatal = false := by
      cases e <;> first | rfl | contradiction
    subst is
    rw [fails, givesUp, harmless, if_neg Bool.false_ne_true]
    exact congrArg (Progress.done () · _) (rested_of_ready ready)
  all time e gone := by
    have fatal : e.isFatal = true := by
      rcases gone with rfl | rfl <;> rfl
    subst is
    rw [fails, givesUp, if_pos fatal]
    have told (d : Connection) (reason : CloseReason) : d.farewell reason =
        .shown { d.status with closeReason := some reason } :: (d.partings reason ++
          [.shown (d.emptied reason).status, .shown (d.closed reason).status,
            .event (.stateChanged .closed), .event (.closed reason)]) := by
      rw [farewell, released_eq_partings]
    rw [told]
    exact ⟨_, _, _, rfl, fun _ => rfl, rfl, Correlator.cancelAll_outstanding _ c.options.drain, rfl⟩
  timers engine now later shown same steady := by
    subst same
    have polls := congrArg Engine.pollTimer steady
    have sweeps := congrArg Engine.sweepTimer steady
    simp only [Engine.adjustTimers] at polls sweeps ⊢
    rw [sweeps]
    congr 1
    rw [← polls]
    split <;> rfl

namespace Run

variable {options : Options} {h : History}

/-- A call that carries bytes, if it fails, ends its reaction with nothing changed, or closes the
connection. -/
theorem allOrNothing {l : LinkCall} {resume : LinkAnswer l → Progress Unit}
    (run : Run options h (.calling d l resume)) (carries : l.Carries) :
    ∃ g x part c, h = g ++ .take x :: (part ++ [.call l]) ∧ Run options g (.idle c) ∧
      c.state = .ready ∧
      (∀ ch data, l = .write ch data → ∃ n method params callback,
        x = .command n (.send method params callback)) ∧
      c.AllOrNothing ((History.signals (.take x :: part)).foldl SignalTally.count c.signals)
        (c.correlator.nextId + l.ids) (x.lastWords ·) resume := by
  rcases run.transfers with
    ⟨other, -⟩ | ⟨g, x, part, c, channel, is, before, awaits, inUse, transfers⟩
  · exact (other carries).elim
  obtain ⟨ready, -, pollSignal⟩ := before.serving inUse
  refine ⟨g, x, part, c, is, before, ready, ?_, ?_⟩
  · rintro ch data rfl
    cases transfers
    exact ⟨_, _, _, _, rfl⟩
  · exact .of_givesUp ready (transfers.eq pollSignal) transfers.fails

/-- A request that is being written. -/
theorem allOrNothing_write :
    ∃ h d data resume,
      Run (sampleOptions 64) h (.calling d (.write sampleChannel.inbox data) resume) ∧
      ∃ g x part c, h = g ++ .take x :: (part ++ [.call (.write sampleChannel.inbox data)]) ∧
        Run (sampleOptions 64) g (.idle c) ∧ c.state = .ready ∧
        (∀ ch data', LinkCall.write sampleChannel.inbox data = .write ch data' →
          ∃ n method params callback, x = .command n (.send method params callback)) ∧
        c.AllOrNothing ((History.signals (.take x :: part)).foldl SignalTally.count c.signals)
          (c.correlator.nextId + (LinkCall.write sampleChannel.inbox data).ids) (x.lastWords ·)
          resume := by
  have writing := (Run.sample 64).step
    (.take (s := .command 1 (.send "ping" .null (some ⟨1, false⟩))) trivial)
  exact ⟨_, _, _, _, writing, allOrNothing writing trivial⟩

end Run

end Connection

end GattRpc
