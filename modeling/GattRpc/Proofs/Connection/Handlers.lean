import GattRpc.Proofs.Connection.Endings

/-! # What the handlers of a connection do

For each handler that calls the link, a relation lists all that it may do: what was done, the value
it ended with, and the connection it left. A handler ends only as its relation says. Whatever else
is proved of a handler is proved by cases on its relation. -/

namespace GattRpc

namespace Connection

open Activity

/-! ### What is left -/

/-- The connection in the next state, where everybody can see it. -/
def enter (c : Connection) (next : ConnectionState) : Connection :=
  { c with state := next, status := { c.status with state := next } }

/-- The connection with an error recorded. -/
def blame (c : Connection) (e : LinkError) : Connection :=
  { c with status := { c.status with lastError := some e.message } }

/-- The connection whose link is lost sight of. -/
def detached (c : Connection) : Connection := { c with channel := none, watching := false }

/-- The connection with nothing unfinished, for a reason that is recorded. -/
def emptied (c : Connection) (reason : CloseReason) : Connection :=
  { c with
    accumulator := c.accumulator.reset
    correlator := (c.correlator.cancelAll reason c.options.drain).1
    status := { c.status with closeReason := some reason, outstanding := 0 } }

/-- The connection once it is closed. -/
def closed (c : Connection) (reason : CloseReason) : Connection :=
  (c.detached.emptied reason).enter .closed

/-- The connection once its link is connected. -/
def linked (c : Connection) (peer : String) : Connection :=
  { c with watching := true, status := { c.status with peer := some peer } }.enter .discovering

/-- The connection once it is ready. -/
def opened (c : Connection) (channel : Channel) : Connection :=
  { c with channel := some channel }.enter .ready

/-- The connection once the id of a request is used. -/
def prepared (c : Connection) : Connection :=
  { c with correlator := { c.correlator with nextId := c.correlator.nextId + 1 } }

/-- The connection once a request is written. -/
def registered (c : Connection) (now : Nat) (request : Request) (callback : Option Callback) :
    Connection :=
  let correlator := (c.correlator.register now request callback).1
  { c with correlator, status := { c.status with outstanding := correlator.count } }

/-- What the callbacks of outstanding requests come to when the connection closes. -/
def released (c : Connection) (reason : CloseReason) : List Output :=
  let release := (c.correlator.cancelAll reason c.options.drain).2
  release.settled.map .settled ++ release.discarded.map .discarded

/-- What is told when the connection closes: the reason is shown before callbacks are released. -/
def farewell (c : Connection) (reason : CloseReason) : List Output :=
  .shown { c.status with closeReason := some reason } ::
    (c.released reason ++
      [.shown (c.emptied reason).status, .shown (c.closed reason).status,
        .event (.stateChanged .closed), .event (.closed reason)])

section Fields

variable (c : Connection) (reason : CloseReason) (channel : Channel)

@[simp] theorem closed_state : (c.closed reason).state = .closed := rfl

@[simp] theorem closed_channel : (c.closed reason).channel = none := rfl

@[simp] theorem closed_watching : (c.closed reason).watching = false := rfl

@[simp] theorem closed_correlator :
    (c.closed reason).correlator = (c.correlator.cancelAll reason c.options.drain).1 := rfl

@[simp] theorem opened_state : (c.opened channel).state = .ready := rfl

@[simp] theorem opened_watching : (c.opened channel).watching = c.watching := rfl

end Fields

/-! ### What is done -/

/-- The link is disconnected unless it was never connected. -/
inductive HangsUp (c : Connection) : History → Prop
  | unconnected (state : c.state = .disconnected) : c.HangsUp []
  | connected (state : c.state ≠ .disconnected) (a : LinkAnswer .disconnect) :
    c.HangsUp [.call .disconnect, .answer .disconnect a]

inductive Shuts (c : Connection) (reason : CloseReason) : History → Connection → Prop
  | already (state : c.state = .closed) : c.Shuts reason [] c
  | now {hang : History} (state : c.state ≠ .closed) (hangsUp : c.HangsUp hang) :
    c.Shuts reason (hang ++ (c.farewell reason).map .tell) (c.closed reason)

inductive NotesError (c : Connection) (e : LinkError) : History → Connection → Prop
  | harmless (harmless : e.isFatal = false) :
    c.NotesError e [.tell (.shown (c.blame e).status)] (c.blame e)
  | fatal {h : History} {c' : Connection} (fatal : e.isFatal = true)
    (shuts : (c.blame e).Shuts (.transportFailure e.message) h c') :
    c.NotesError e (.tell (.shown (c.blame e).status) :: h) c'

/-- How a connection whose service is found comes to be ready. -/
inductive StartsPolling (c : Connection) (channel : Channel) :
    History → Except LinkError Unit → Prop
  | notify (mode : c.options.pollMode = .notify) (a : LinkAnswer (.subscribe channel.pollSignal)) :
    c.StartsPolling channel
      [.call (.subscribe channel.pollSignal), .answer (.subscribe channel.pollSignal) a] a.result
  | interval {period : Nat} (mode : c.options.pollMode = .interval (period + 1)) :
    c.StartsPolling channel [] (.ok ())

/-- How a connection that is being connected gets on, once each earlier step has succeeded. -/
inductive FindsService (c : Connection) : History → Except RpcError Unit → Connection → Prop
  | lost {a : LinkAnswer .discover} {e : LinkError} {h : History} {c' : Connection}
    (result : a.result = .error e)
    (shuts : (c.blame e).Shuts (.transportFailure e.message) h c') :
    c.FindsService
      (.call .discover :: .answer .discover a :: .tell (.shown (c.blame e).status) :: h)
      (.error (.transport e)) c'
  | unusable {a : LinkAnswer .discover} {services : List Service} {e : LinkError} {h : History}
    {c' : Connection} (result : a.result = .ok services) (unusable : resolve services = .error e)
    (shuts : (c.blame e).Shuts (.configuration e.message) h c') :
    c.FindsService
      (.call .discover :: .answer .discover a :: .tell (.shown (c.blame e).status) :: h)
      (.error (.configuration e.message)) c'
  | unpolled {a : LinkAnswer .discover} {services : List Service} {channel : Channel}
    {e : LinkError} {start h : History} {c' : Connection} (result : a.result = .ok services)
    (usable : resolve services = .ok channel) (starts : c.StartsPolling channel start (.error e))
    (shuts : (c.blame e).Shuts (.transportFailure e.message) h c') :
    c.FindsService
      (.call .discover :: .answer .discover a ::
        (start ++ .tell (.shown (c.blame e).status) :: h))
      (.error (.transport e)) c'
  | found {a : LinkAnswer .discover} {services : List Service} {channel : Channel}
    {start : History} (result : a.result = .ok services) (usable : resolve services = .ok channel)
    (starts : c.StartsPolling channel start (.ok ())) :
    c.FindsService
      (.call .discover :: .answer .discover a ::
        (start ++
          [.tell (.shown (c.opened channel).status), .tell (.event (.stateChanged .ready))]))
      (.ok ()) (c.opened channel)

inductive Establishes (c : Connection) : History → Except RpcError Unit → Connection → Prop
  | already (state : c.state = .ready) : c.Establishes [] (.ok ()) c
  | refused (unready : c.state ≠ .ready) (tried : c.state ≠ .disconnected) :
    c.Establishes [] (.error (.notReady c.state)) c
  | unreachable {a : LinkAnswer .connect} {e : LinkError} {h : History} {c' : Connection}
    (state : c.state = .disconnected) (result : a.result = .error e)
    (shuts : ((c.enter .connecting).blame e).Shuts (.transportFailure e.message) h c') :
    c.Establishes
      (.tell (.shown (c.enter .connecting).status) ::
        .tell (.event (.stateChanged .connecting)) :: .call .connect :: .answer .connect a ::
          .tell (.shown ((c.enter .connecting).blame e).status) :: h)
      (.error (.transport e)) c'
  | connected {a : LinkAnswer .connect} {peer : String} {h : History} {r : Except RpcError Unit}
    {c' : Connection} (state : c.state = .disconnected) (result : a.result = .ok peer)
    (finds : ((c.enter .connecting).linked peer).FindsService h r c') :
    c.Establishes
      (.tell (.shown (c.enter .connecting).status) ::
        .tell (.event (.stateChanged .connecting)) :: .call .connect :: .answer .connect a ::
          .tell (.shown { (c.enter .connecting).status with peer := some peer }) ::
            .tell (.shown ((c.enter .connecting).linked peer).status) ::
              .tell (.event (.stateChanged .discovering)) :: h) r c'

inductive Sends (c : Connection) (method : String) (params : Json) (callback : Option Callback) :
    History → Except RpcError RequestId → Connection → Prop
  | refused (unready : c.state = .ready → c.channel = none) :
    c.Sends method params callback ((callback.toList.map .discarded).map .tell)
      (.error (.notReady c.state)) c
  | failed {channel : Channel} {request : Request} {e : LinkError} {h : History} {c' : Connection}
    (state : c.state = .ready) (inUse : c.channel = some channel)
    (is : request = .new c.correlator.nextId method params)
    (a : LinkAnswer (.write channel.inbox (Frame.encode request.document)))
    (result : a.result = .error e) (notes : c.prepared.NotesError e h c') :
    c.Sends method params callback
      (.call (.write channel.inbox (Frame.encode request.document)) :: .answer _ a ::
        (h ++ (callback.toList.map .discarded).map .tell))
      (.error (.transport e)) c'
  | written {channel : Channel} {request : Request} (state : c.state = .ready)
    (inUse : c.channel = some channel) (is : request = .new c.correlator.nextId method params)
    (a : LinkAnswer (.write channel.inbox (Frame.encode request.document)))
    (result : a.result = .ok ()) :
    c.Sends method params callback
      (.call (.write channel.inbox (Frame.encode request.document)) :: .answer _ a ::
        (((c.prepared.correlator.register a.time request callback).2.toList.map .discarded).map
          .tell ++ [.tell (.shown (c.prepared.registered a.time request callback).status)]))
      (.ok request.id) (c.prepared.registered a.time request callback)

/-! ### Inversion -/

variable {α : Type} {c c' : Connection} {h : History}

theorem transition_eq {next : ConnectionState} : transition next c =
    .done () (c.enter next) [.shown (c.enter next).status, .event (.stateChanged next)] := rfl

theorem releaseAll_eq {reason : CloseReason} : releaseAll reason c =
    .done () (c.emptied reason)
      (.shown { c.status with closeReason := some reason } ::
        (c.released reason ++ [.shown (c.emptied reason).status])) := rfl

/-- All that is left once the link is disconnected is done at once. -/
theorem farewell_eq {reason : CloseReason} :
    (do releaseAll reason; transition .closed; emit (.closed reason) : Activity Unit) c.detached =
      .done () (c.closed reason) (c.farewell reason) := by
  change (releaseAll reason c.detached).bind _ = _
  rw [releaseAll_eq]
  simp only [Progress.bind, Progress.after]
  simp only [farewell, List.cons_append, List.append_assoc]
  rfl

@[simp] theorem ends_transition_bind {next : ConnectionState} {f : Unit → Activity α} {a : α} :
    Ends (transition next >>= f) c h a c' ↔
      ∃ h', h = .tell (.shown (c.enter next).status) :: .tell (.event (.stateChanged next)) :: h' ∧
        (f ()).Ends (c.enter next) h' a c' :=
  ends_bind_of_done transition_eq

theorem Shuts.of_ends {reason : CloseReason} {u : Unit}
    (e : (shutdown reason).Ends c h u c') : c.Shuts reason h c' := by
  simp only [shutdown, ends_get_bind] at e
  split at e
  next state =>
    obtain ⟨rfl, -, rfl⟩ := ends_pure.1 e
    exact .already state
  next state =>
    rw [ends_modify_bind] at e
    split at e
    next tried =>
      obtain ⟨a, h', rfl, closes⟩ := ends_call_bind.1 e
      obtain ⟨rfl, -, rfl⟩ := (ends_of_done farewell_eq).1 closes
      exact .now state (.connected tried a)
    next untried =>
      obtain ⟨rfl, -, rfl⟩ := (ends_of_done farewell_eq).1 e
      exact .now state (.unconnected (Decidable.not_not.1 untried))

theorem ends_failConnecting {e : LinkError} {r : RpcError}
    (ends : (failConnecting e).Ends c h r c') :
    r = .transport e ∧ ∃ h', h = .tell (.shown (c.blame e).status) :: h' ∧
      (c.blame e).Shuts (.transportFailure e.message) h' c' := by
  rw [failConnecting, ends_report_bind] at ends
  obtain ⟨h', rfl, ends⟩ := ends
  obtain ⟨h₁, u, c₁, h₂, e₁, e₂, rfl⟩ := ends_bind.1 ends
  obtain ⟨rfl, rfl, rfl⟩ := ends_pure.1 e₂
  rw [List.append_nil]
  exact ⟨rfl, h₁, rfl, .of_ends e₁⟩

theorem NotesError.of_ends {e : LinkError} {u : Unit} (ends : (noteLinkError e).Ends c h u c') :
    c.NotesError e h c' := by
  rw [noteLinkError, ends_report_bind] at ends
  obtain ⟨h', rfl, ends⟩ := ends
  split at ends
  next fatal => exact .fatal fatal (.of_ends ends)
  next harmless =>
    obtain ⟨rfl, -, rfl⟩ := ends_pure.1 ends
    exact .harmless (Bool.eq_false_iff.2 harmless)

theorem StartsPolling.of_ends {channel : Channel} {r : Except LinkError Unit}
    (e : (startPolling channel).Ends c h r c') : c.StartsPolling channel h r ∧ c' = c := by
  simp only [startPolling, ends_get_bind] at e
  split at e
  next mode =>
    obtain ⟨a, h', rfl, e'⟩ := ends_call_bind.1 e
    obtain ⟨rfl, rfl, rfl⟩ := ends_pure.1 e'
    exact ⟨.notify mode a, rfl⟩
  next => exact (not_ends_crash e).elim
  next mode =>
    obtain ⟨rfl, rfl, rfl⟩ := ends_pure.1 e
    exact ⟨.interval mode, rfl⟩

/-- What is left of connecting after a failed step. -/
theorem ends_failConnecting_bind {e : LinkError} {r : Except RpcError Unit}
    (ends : Ends (failConnecting e >>= fun x => pure (.error x)) c h r c') :
    r = .error (.transport e) ∧ ∃ h', h = .tell (.shown (c.blame e).status) :: h' ∧
      (c.blame e).Shuts (.transportFailure e.message) h' c' := by
  obtain ⟨h₁, x, c₁, h₂, e₁, e₂, rfl⟩ := ends_bind.1 ends
  obtain ⟨rfl, rfl, rfl⟩ := ends_pure.1 e₂
  obtain ⟨rfl, failed⟩ := ends_failConnecting e₁
  rw [List.append_nil]
  exact ⟨rfl, failed⟩

theorem Establishes.of_ends {r : Except RpcError Unit} (e : establish.Ends c h r c') :
    c.Establishes h r c' := by
  simp only [establish, ends_get_bind] at e
  split at e
  next state =>
    obtain ⟨rfl, rfl, rfl⟩ := ends_pure.1 e
    exact .already state
  next state =>
    simp only [ends_transition_bind, ends_call_bind] at e
    obtain ⟨h₁, rfl, a, h₂, rfl, e⟩ := e
    split at e
    next result =>
      obtain ⟨rfl, h', rfl, shuts⟩ := ends_failConnecting_bind e
      exact .unreachable state result shuts
    next peer result =>
      simp only [ends_modify_bind, ends_report_bind, ends_transition_bind, ends_call_bind] at e
      obtain ⟨h₃, rfl, h₄, rfl, a', h₅, rfl, e⟩ := e
      refine .connected state result ?_
      change Ends _ ((c.enter .connecting).linked peer) _ _ _ at e
      split at e
      next result =>
        obtain ⟨rfl, h', rfl, shuts⟩ := ends_failConnecting_bind e
        exact .lost result shuts
      next services result =>
        split at e
        next unusable =>
          obtain ⟨h', rfl, shuts⟩ := ends_report_bind.1 e
          obtain ⟨h₁, u, c₁, h₂, e₁, e₂, rfl⟩ := ends_bind.1 shuts
          obtain ⟨rfl, rfl, rfl⟩ := ends_pure.1 e₂
          rw [List.append_nil]
          exact .unusable result unusable (.of_ends e₁)
        next usable =>
          obtain ⟨start, s, c₁, h₂, e₁, e₂, rfl⟩ := ends_bind.1 e
          obtain ⟨starts, rfl⟩ := StartsPolling.of_ends e₁
          cases s with
          | error err =>
            obtain ⟨rfl, h', rfl, shuts⟩ := ends_failConnecting_bind e₂
            exact .unpolled result usable starts shuts
          | ok =>
            simp only [ends_modify_bind, ends_transition_bind, ends_pure] at e₂
            obtain ⟨h', rfl, rfl, rfl, rfl⟩ := e₂
            exact .found result usable starts
  next unready untried =>
    obtain ⟨rfl, rfl, rfl⟩ := ends_pure.1 e
    exact .refused unready untried

theorem Sends.of_ends {method : String} {params : Json} {callback : Option Callback}
    {r : Except RpcError RequestId} (e : (send method params callback).Ends c h r c') :
    c.Sends method params callback h r c' := by
  simp only [send, ends_get_bind] at e
  split at e
  next channel inUse state =>
    simp only [ends_modify_bind, ends_call_bind] at e
    obtain ⟨a, h', rfl, e⟩ := e
    split at e
    next result =>
      obtain ⟨h₁, u, c₁, h₂, e₁, e₂, rfl⟩ := ends_bind.1 e
      simp only [ends_tell_bind, ends_pure] at e₂
      obtain ⟨h', rfl, rfl, rfl, rfl⟩ := e₂
      rw [List.append_nil]
      exact .failed state inUse rfl a result (.of_ends e₁)
    next result =>
      simp only [ends_get_bind, ends_modify_bind, ends_tell_bind, reportOutstanding, bind_assoc,
        ends_report_bind, ends_pure] at e
      obtain ⟨h₁, rfl, h₂, rfl, rfl, rfl, rfl⟩ := e
      exact .written state inUse rfl a result
  next state unready =>
    simp only [ends_tell_bind, ends_pure] at e
    obtain ⟨h', rfl, rfl, rfl, rfl⟩ := e
    have unready : c'.state = .ready → c'.channel = none := by
      intro ready
      cases inUse : c'.channel with
      | none => rfl
      | some channel => exact (unready channel inUse ready).elim
    rw [List.append_nil]
    exact .refused unready

end Connection

end GattRpc
