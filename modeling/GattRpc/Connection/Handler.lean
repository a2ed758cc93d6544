import GattRpc.Connection.Activity

/-! # What a connection does

A connection handles one stimulus at a time: a command, the loss of the link, a poll tick, a check
for old requests, or the end of its last client. Once it is closed it never opens again, and it
disconnects the link exactly when it has tried to connect it. -/

namespace GattRpc

/-- What a connection reacts to. A command comes with a ticket, which its reply will carry. -/
inductive Stimulus
  | command (ticket : Nat) (c : Command)
  | clientsGone
  | linkLost
  | poll (tick : PollTick)
  | sweep (now : Nat)

namespace Connection

open Activity

/-- Moves to a state, where everybody can see it. -/
def transition (next : ConnectionState) : Activity Unit := do
  modify fun c => { c with state := next }
  report fun s => { s with state := next }
  emit (.stateChanged next)

/-- Forgets the unfinished record and every outstanding request. The reason is shown first: a client
whose callback is dropped finds it there. -/
def releaseAll (reason : CloseReason) : Activity Unit := do
  modify fun c => { c with accumulator := c.accumulator.reset }
  report fun s => { s with closeReason := some reason }
  let c ← get
  let (correlator, release) := c.correlator.cancelAll reason c.options.drain
  modify fun c => { c with correlator }
  tell (release.settled.map .settled ++ release.discarded.map .discarded)
  report fun s => { s with outstanding := 0 }

/-- Closes the connection, unless it is closed. The link is disconnected unless it was never
connected; whether that succeeds does not matter. -/
def shutdown (reason : CloseReason) : Activity Unit := do
  let c ← get
  if c.state = .closed then return
  modify fun c => { c with channel := none, watching := false }
  if c.state ≠ .disconnected then
    let _ ← call .disconnect
  releaseAll reason
  transition .closed
  emit (.closed reason)

/-- Closes after a failed step of connecting, and gives the error for the caller. -/
def failConnecting (e : LinkError) : Activity RpcError := do
  report fun s => { s with lastError := some e.message }
  shutdown (.transportFailure e.message)
  return .transport e

/-- Records an error of the link, and closes if the link is gone. -/
def noteLinkError (e : LinkError) : Activity Unit := do
  report fun s => { s with lastError := some e.message }
  if e.isFatal then shutdown (.transportFailure e.message)

/-- The inbox and the poll signal of the first RPC service, each the first of its UUID. -/
def resolve (services : List Service) : Except LinkError Channel :=
  match services.find? fun s => s.uuid = rpcService with
  | none => .error (.serviceNotFound rpcService)
  | some s =>
    match s.characteristic? inboxUuid, s.characteristic? pollSignalUuid with
    | none, _ => .error (.characteristicNotFound inboxUuid)
    | some _, none => .error (.characteristicNotFound pollSignalUuid)
    | some inbox, some pollSignal => .ok ⟨inbox, pollSignal⟩

/-- Starts to wait for signals. A timer cannot have a period of zero. -/
def startPolling (channel : Channel) : Activity (Except LinkError Unit) := do
  match (← get).options.pollMode with
  | .notify => return (← call (.subscribe channel.pollSignal)).result
  | .interval 0 => crash
  | .interval (_ + 1) => return .ok ()

/-- Connects the link, finds the service and starts polling. Connecting twice is no error, but
nothing can be connected once it is closed. -/
def establish : Activity (Except RpcError Unit) := do
  match (← get).state with
  | .ready => return .ok ()
  | .disconnected =>
    transition .connecting
    match (← call .connect).result with
    | .error e => return .error (← failConnecting e)
    | .ok peer =>
      modify fun c => { c with watching := true }
      report fun s => { s with peer := some peer }
      transition .discovering
      match (← call .discover).result with
      | .error e => return .error (← failConnecting e)
      | .ok services =>
        match resolve services with
        | .error e =>
          report fun s => { s with lastError := some e.message }
          shutdown (.configuration e.message)
          return .error (.configuration e.message)
        | .ok channel =>
          match ← startPolling channel with
          | .error e => return .error (← failConnecting e)
          | .ok () =>
            modify fun c => { c with channel := some channel }
            transition .ready
            return .ok ()
  | state => return .error (.notReady state)

/-- Shows how many requests are outstanding. -/
def reportOutstanding : Activity Unit := do
  let c ← get
  report fun s => { s with outstanding := c.correlator.count }

/-- Writes a request to the inbox and, once it is written, makes it outstanding. -/
def send (method : String) (params : Json) (callback : Option Callback) :
    Activity (Except RpcError RequestId) := do
  let c ← get
  match c.channel, c.state with
  | some channel, .ready =>
    let (correlator, request) := c.correlator.prepare method params
    modify fun c => { c with correlator }
    let answer ← call (.write channel.inbox (Frame.encode request.document))
    match answer.result with
    | .error e =>
      noteLinkError e
      tell (callback.toList.map .discarded)
      return .error (.transport e)
    | .ok () =>
      let (correlator, displaced) := (← get).correlator.register answer.time request callback
      modify fun c => { c with correlator }
      tell (displaced.toList.map .discarded)
      reportOutstanding
      return .ok request.id
  | _, state =>
    tell (callback.toList.map .discarded)
    return .error (.notReady state)

/-- Delivers a message from the peripheral. -/
def route (message : Json) : Activity Unit := do
  match Inbound.classify message with
  | .response r =>
    let (correlator, settled) := (← get).correlator.dispatch r
    modify fun c => { c with correlator }
    match settled with
    | some s => tell [.settled s]
    | none => emit (.orphanResponse r.id)
  | .notification method params => emit (.notification method params)
  | .unrecognized _ => return

/-- Delivers messages one after the other. -/
def routeAll : List Json → Activity Unit
  | [] => return
  | m :: ms => do
    route m
    routeAll ms

/-- Takes bytes of the inbox: reports the records they spoil, then delivers the messages they
finish. -/
def receive (chunk : List UInt8) : Activity Unit := do
  let (accumulator, outcomes) := (← get).accumulator.feed chunk
  modify fun c => { c with accumulator }
  tell (outcomes.filterMap fun o => o.dropped?.map fun d => .event (.frameDropped d))
  routeAll (outcomes.filterMap Frame.Outcome.message?)
  reportOutstanding

/-- Counts a signal, and reads the inbox once if it announces something. -/
def signal (channel : Channel) (payload : List UInt8) : Activity Unit := do
  modify fun c => { c with signals := c.signals.count payload }
  if (PollSignal.announced? payload).isSome then
    match (← call (.read channel.inbox)).result with
    | .ok chunk => receive chunk
    | .error e => noteLinkError e

/-- A poll tick. The end of the notifications means that the link is lost. -/
def poll (channel : Channel) : PollTick → Activity Unit
  | .signal payload => signal channel payload
  | .due => do
    match (← call (.read channel.pollSignal)).result with
    | .ok payload => signal channel payload
    | .error e => noteLinkError e
  | .ended => shutdown .linkLost

/-- Fails the requests that have been outstanding for too long. -/
def sweep (now : Nat) : Activity Unit := do
  let c ← get
  match c.options.requestTimeout with
  | none => return
  | some timeout =>
    let (correlator, settled) := c.correlator.expire now timeout
    modify fun c => { c with correlator }
    tell (settled.map .settled)
    unless settled.isEmpty do reportOutstanding

def command (ticket : Nat) : Command → Activity Unit
  | .connect => do
    let r ← establish
    tell [.reply ticket (.connect r)]
  | .send method params callback => do
    let r ← send method params callback
    tell [.reply ticket (.send r)]
  | .close => do
    shutdown .requested
    tell [.reply ticket .close]

/-- What a stimulus makes a connection do. One that the connection does not await has no effect. -/
def react (s : Stimulus) : Activity Unit := do
  let c ← get
  match s with
  | .command ticket cmd => command ticket cmd
  | .clientsGone => shutdown .handleDropped
  | .linkLost => if c.watching then shutdown .linkLost
  | .poll tick =>
    match c.channel with
    | some channel => poll channel tick
    | none => return
  | .sweep now => if c.sweeping then sweep now

/-- Handles a stimulus. A closed connection stops checking for old requests. -/
def handle (s : Stimulus) : Activity Unit := do
  react s
  modify fun c => { c with sweeping := c.sweeping && c.state ≠ .closed }

end Connection

end GattRpc
