import GattRpc.Session.Client

/-! # Scripted sessions

A link whose answers, delays and failures are laid down by a script, and the steps of such a
script: client calls, what the peripheral does, and the passing of time. -/

namespace GattRpc

/-- The calls that a script tells apart. -/
inductive CallKind
  | connect
  | discover
  | subscribe
  | write
  | readInbox
  | readPollSignal
  | disconnect
deriving DecidableEq, Repr

def LinkCall.kind : LinkCall → CallKind
  | connect => .connect
  | discover => .discover
  | subscribe _ => .subscribe
  | write _ _ => .write
  | read c => if c.uuid = inboxUuid then .readInbox else .readPollSignal
  | disconnect => .disconnect

structure ScriptedLink where
  services : List Service
  peer : String
  /-- What the next reads of the inbox give. -/
  chunks : List (List UInt8) := []
  /-- What a read of the poll signal gives. -/
  pollValue : List UInt8 := []
  /-- Failures to come, each for the next call of its kind; none lets the call pass. -/
  outcomes : List (CallKind × Option LinkError) := []
  /-- How long calls take, the latest entry of a kind first. -/
  delays : List (CallKind × Nat) := []
  /-- Calls at which the adapter itself fails. -/
  traps : List CallKind := []
  /-- While the link is up: whether its loss was reported. -/
  lost : Option Bool := none
  notifications : Option PollSource := none
  /-- The calls since the last report. -/
  log : List LinkCall := []

namespace ScriptedLink

/-- The next outcome for calls of a kind, and the outcomes left. -/
def takeOutcome (kind : CallKind) :
    List (CallKind × Option LinkError) → Option LinkError × List (CallKind × Option LinkError)
  | [] => (none, [])
  | (k, o) :: rest =>
    if k = kind then (o, rest)
    else
      let (found, left) := takeOutcome kind rest
      (found, (k, o) :: left)

/-- The effect and the result of a call that does not fail. -/
def perform (l : ScriptedLink) : (call : LinkCall) → ScriptedLink × call.Result
  | .connect => ({ l with lost := some false }, l.peer)
  | .discover => (l, l.services)
  | .subscribe _ => ({ l with notifications := some (.notifications [] false) }, ())
  | .write _ _ => (l, ())
  | .read c =>
    if c.uuid = inboxUuid then ({ l with chunks := l.chunks.tail }, l.chunks.headD [])
    else (l, l.pollValue)
  | .disconnect => (l, ())

/-- Both streams end, as they do whenever the link is disconnected. -/
def hangUp (l : ScriptedLink) : ScriptedLink := { l with lost := none, notifications := none }

def finishCall (l : ScriptedLink) (call : LinkCall) :
    ScriptedLink × Option (Except LinkError call.Result) :=
  if l.traps.contains call.kind then (l, none)
  else
    let (failure, outcomes) := takeOutcome call.kind l.outcomes
    let l := { l with outcomes }
    let l := if call.kind = .disconnect then l.hangUp else l
    match failure with
    | some e => (l, some (.error e))
    | none =>
      let (l, r) := l.perform call
      (l, some (.ok r))

instance : Adapter ScriptedLink where
  start l call := ({ l with log := l.log ++ [call] }, (l.delays.lookup call.kind).getD 0)
  finish := finishCall
  isLost l := l.lost.getD false
  notifications l := l.notifications
  keep l left := { l with notifications := some left }
  arrivals _ := 0

/-- The peripheral puts bytes on the inbox. -/
def enqueue (l : ScriptedLink) (chunk : List UInt8) : ScriptedLink :=
  { l with chunks := l.chunks ++ [chunk] }

/-- The peripheral sends a notification, which is lost unless it is subscribed. -/
def signal (l : ScriptedLink) (payload : List UInt8) : ScriptedLink :=
  match l.notifications with
  | some (.notifications waiting false) =>
    { l with notifications := some (.notifications (waiting ++ [payload]) false) }
  | _ => l

/-- The notifications end after those that wait. -/
def endNotifications (l : ScriptedLink) : ScriptedLink :=
  match l.notifications with
  | some (.notifications waiting _) =>
    { l with notifications := some (.notifications waiting true) }
  | _ => l

/-- The link reports that it is lost, if it is up. -/
def lose (l : ScriptedLink) : ScriptedLink := { l with lost := l.lost.map fun _ => true }

end ScriptedLink

/-- A step of a script. -/
inductive ScriptStep
  | calls (cs : List ClientCall)
  | queue (chunks : List (List UInt8))
  | notify (payloads : List (List UInt8))
  | respond (chunk : List UInt8)
  | pollValue (value : List UInt8)
  | fail (kind : CallKind) (outcome : Option LinkError)
  | delay (kind : CallKind) (ms : Nat)
  | trap (kind : CallKind)
  | endNotifications
  | loseLink
  | dropClient
  | dropEvents
  | advance (ms : Nat)
  | jump (ms : Nat)

/-- What a step of a script brought about. -/
structure StepReport where
  finished : List (Nat × CallResult)
  settled : List Settlement
  events : List Event
  calls : List LinkCall
  status : LinkStatus

namespace Session

abbrev Scripted := Session ScriptedLink

/-- Changes the link. -/
def script (s : Scripted) (f : ScriptedLink → ScriptedLink) : Scripted :=
  { s with engine := { s.engine with link := f s.engine.link } }

/-- Does what a step says, before anything runs. -/
def perform (s : Scripted) : ScriptStep → Scripted
  | .calls cs => cs.foldl begin s
  | .queue chunks => s.script fun l => chunks.foldl .enqueue l
  | .notify payloads => s.script fun l => payloads.foldl .signal l
  | .respond chunk =>
    s.script fun l => (l.enqueue chunk).signal (PollSignal.announcement chunk.length)
  | .pollValue value => s.script fun l => { l with pollValue := value }
  | .fail kind outcome => s.script fun l => { l with outcomes := l.outcomes ++ [(kind, outcome)] }
  | .delay kind ms => s.script fun l => { l with delays := (kind, ms) :: l.delays }
  | .trap kind => s.script fun l => { l with traps := kind :: l.traps }
  | .endNotifications => s.script .endNotifications
  | .loseLink => s.script .lose
  | .dropClient => { s with held := false }
  | .dropEvents => { s with channel := s.channel.close }
  | .advance ms => advance ms s
  | .jump ms => s.jump ms

/-- What happened since the last report. Events are read only if `readEvents`. -/
def report (s : Scripted) (readEvents : Bool) : Scripted × StepReport :=
  let (channel, events) := if readEvents then s.channel.drain else (s.channel, [])
  ({ s.script (fun l => { l with log := [] }) with channel, finished := [], settled := [] },
    ⟨s.finished, s.settled, events, s.engine.link.log, s.status⟩)

/-- Does the steps of a script one after the other. With `hold`, events are read only after the
last one. -/
def play (hold : Bool) : List ScriptStep → Scripted → List StepReport
  | [], _ => []
  | step :: rest, s =>
    let (s, r) := (s.perform step).settle.report (!hold || rest.isEmpty)
    r :: play hold rest s

/-- The session once the client has connected, or what became of it instead. -/
def connect (s : Scripted) : Except (RpcError × List LinkCall) Scripted :=
  let s := (s.begin .connect).settle
  match s.finished with
  | [(_, .connected)] => .ok { s with finished := [], made := 0 }
  | [(_, .failed e)] => .error (e, s.engine.link.log)
  | _ => .error (.shutdown, s.engine.link.log)

end Session

end GattRpc
