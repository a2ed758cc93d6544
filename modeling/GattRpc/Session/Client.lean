import GattRpc.Session.Engine
import GattRpc.Session.EventChannel

/-! # Clients of a connection

A client call first looks at the status of the connection. Then it waits for room in the command
queue, puts its command there, and waits for the reply; a call that wants a response then waits for
that. Each running call keeps the connection alive, as the client itself does. A `Session` holds the
calls that run, the engine that serves them, the status that the connection showed last, the clock,
and what has not been reported yet. -/

namespace GattRpc

/-- What a client asks for. -/
inductive ClientCall
  | connect
  | send (method : String) (params : Json) (callback : Option Callback)
  | call (method : String) (params : Json)
  | close
deriving DecidableEq

/-- The command that a call queues. Its callback carries the number of the call, and a call that
waits for its response is told by one of its own. -/
def ClientCall.command (number : Nat) : ClientCall → Command
  | .connect => .connect
  | .send method params callback =>
    .send method params (callback.map fun c => { c with token := number })
  | .call method params => .send method params (some { token := number })
  | .close => .close

/-- What a client call ends with. -/
inductive CallResult
  | connected
  | sent (id : RequestId)
  | answered (r : Response)
  | closed
  | failed (e : RpcError)
deriving DecidableEq

/-- What a running call waits for. -/
inductive CallStage
  /-- Room for its command in the queue. -/
  | room
  | reply
  | response
deriving DecidableEq, Repr

/-- A call that runs, by its number. -/
structure RunningCall where
  number : Nat
  call : ClientCall
  stage : CallStage := .room

def RunningCall.command (r : RunningCall) : Command := r.call.command r.number

def RunningCall.wantsResponse (r : RunningCall) : Bool :=
  match r.call with
  | .call _ _ => true
  | _ => false

structure Session (L : Type) where
  engine : Engine L
  now : Nat := 0
  /-- How many calls were made. -/
  made : Nat := 0
  running : List RunningCall := []
  /-- The client itself still exists. -/
  held : Bool := true
  /-- What can be seen of the connection. -/
  status : LinkStatus := {}
  channel : EventChannel := {}
  finished : List (Nat × CallResult) := []
  settled : List Settlement := []

namespace Session

variable {L : Type}

/-- A session of a client that has not called anything, unless the command queue is too large to
be made. -/
def open? (link : L) (options : Options) : Option (Session L) :=
  if options.commandQueue ≤ Options.maxCommandQueue then some { engine := .new link options 0 }
  else none

/-- Ends a running call. -/
def finish (s : Session L) (number : Nat) (r : CallResult) : Session L :=
  { s with
    running := s.running.filter fun c => c.number ≠ number
    finished := s.finished ++ [(number, r)] }

/-- A running call now waits for something else. -/
def await (s : Session L) (number : Nat) (stage : CallStage) : Session L :=
  { s with running := s.running.map fun r => if r.number = number then { r with stage } else r }

/-- The error of a call whose callback was dropped, if the call looks for the reason at once. -/
def released (s : Session L) : RpcError :=
  match s.status.closeReason with
  | some reason => .cancelled reason
  | none => .shutdown

/-- A callback that settles a running call, rather than being reported. -/
def runningCall? (s : Session L) (c : Callback) : Option RunningCall :=
  s.running.find? fun r => r.number = c.token && r.wantsResponse

/-- Takes note of an output of the engine. -/
def note (s : Session L) : Output → Session L
  | .shown status => { s with status }
  | .event e => { s with channel := s.channel.offer e }
  | .settled x =>
    match s.runningCall? x.callback with
    | none => { s with settled := s.settled ++ [x] }
    | some r =>
      match x.outcome with
      | .answered response => s.finish r.number (.answered response)
      | .failed e => s.finish r.number (.failed e)
  | .discarded c =>
    match s.runningCall? c with
    | some ⟨number, _, .response⟩ => s.finish number (.failed s.released)
    | _ => s
  | .reply number (.connect r) =>
    s.finish number (match r with | .ok () => .connected | .error e => .failed e)
  | .reply number .close => s.finish number .closed
  | .reply number (.send (.error e)) => s.finish number (.failed e)
  | .reply number (.send (.ok id)) =>
    match s.running.find? fun r => r.number = number with
    | none => s
    | some r =>
      if r.wantsResponse then s.await number .response else s.finish number (.sent id)

/-- How a call ends when the task of the connection does. -/
def orphaned (s : Session L) (r : RunningCall) : CallResult :=
  match r.call, r.stage with
  | .close, _ => .closed
  | _, .room | _, .reply => .failed .shutdown
  | _, .response => .failed s.released

/-- Ends all calls if the task of the connection is over. -/
def endOrphans (s : Session L) : Session L :=
  if s.engine.ended then
    { s with
      running := []
      finished := s.finished ++ s.running.map fun r => (r.number, s.orphaned r) }
  else s

/-- What a call is refused with because the connection is not ready. -/
def refusal? (s : Session L) : ClientCall → Option RpcError
  | .send _ _ _ | .call _ _ =>
    if s.status.isReady then none else some (.notReady s.status.state)
  | .connect | .close => none

/-- A call is to queue its command, which fails if no task is left to take it. -/
def submit (s : Session L) (number : Nat) (call : ClientCall) : Session L :=
  endOrphans { s with running := s.running ++ [⟨number, call, .room⟩] }

/-- Begins a call. -/
def begin (s : Session L) (call : ClientCall) : Session L :=
  let begun := { s with made := s.made + 1 }
  match s.refusal? call with
  | some e => begun.finish s.made (.failed e)
  | none => begun.submit s.made call

/-- The calls that have come so far. -/
def callsAt (s : Session L) (stage : CallStage) : List RunningCall :=
  s.running.filter (·.stage = stage)

/-- The calls that wait for room in the queue. -/
def queueing (s : Session L) : List RunningCall := s.callsAt .room

/-- The queue can take one more command. -/
def hasRoom (s : Session L) : Prop :=
  s.engine.queue.length < max 1 s.engine.connection.options.commandQueue

instance (s : Session L) : Decidable s.hasRoom := inferInstanceAs (Decidable (_ < _))

/-- Queues the command of a call, which then waits for its reply. -/
def enter (s : Session L) (r : RunningCall) : Session L :=
  let queue := s.engine.queue ++ [(r.number, r.command)]
  { s with engine := { s.engine with queue } }.await r.number .reply

/-- The call that enters the queue next: the one that waits longest, if there is room. -/
def entrant? (s : Session L) : Option RunningCall := if s.hasRoom then s.queueing.head? else none

/-- Nobody can give a command any more. -/
def clientsGone (s : Session L) : Bool := !s.held && s.running.isEmpty

variable [Adapter L]

/-- The session once its task has done the next thing, if there is one. -/
def work? (s : Session L) : Option (Session L) :=
  (s.engine.step s.now s.clientsGone).map fun (engine, out) =>
    (out.foldl note { s with engine }).endOrphans

/-- Does the next thing that can be done now, if there is one. A call enters the queue as soon as
there is room. -/
def next? (s : Session L) : Option (Session L) :=
  match s.entrant? with
  | some r => some (s.enter r)
  | none => s.work?

/-- Lets everything run that can run now, for at most so many steps. -/
def runFor : Nat → Session L → Session L
  | 0, s => s
  | steps + 1, s =>
    match s.next? with
    | none => s
    | some s => runFor steps s

/-- Lets everything run that can run now. A call that waits for room enters the queue, and is one
more command. -/
def settle (s : Session L) : Session L :=
  s.runFor (s.engine.patience + 7 * s.queueing.length)

/-- Moves the clock, and lets everything run. -/
def jump (s : Session L) (ms : Nat) : Session L := settle { s with now := s.now + ms }

/-- Moves the clock by one millisecond after the other. -/
def advance : Nat → Session L → Session L
  | 0, s => s
  | ms + 1, s => advance ms (s.jump 1)

end Session

end GattRpc
