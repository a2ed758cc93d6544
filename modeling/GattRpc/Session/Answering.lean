import GattRpc.Session.Script

/-! # A peripheral that answers by rote

A link to a peripheral that answers each write with chunks laid down beforehand, and that may greet
a subscriber with some. Calls take no time; those of a kind may fail, each time. -/

namespace GattRpc

structure AnsweringLink where
  services : List Service
  peer : String
  /-- What calls of a kind fail with. -/
  failures : List (CallKind × LinkError) := []
  /-- What the writes to come bring to the inbox. -/
  replies : List (List (List UInt8)) := []
  /-- What subscribing brings to the inbox. -/
  greeting : List (List UInt8) := []
  /-- A write is the end of the link. -/
  losesAfterWrite : Bool := false
  /-- What the next reads of the inbox give. -/
  chunks : List (List UInt8) := []
  /-- While the link is up: whether its loss was reported. -/
  lost : Option Bool := none
  notifications : Option PollSource := none
  /-- The calls so far, without the reads of the poll signal. -/
  log : List LinkCall := []

namespace AnsweringLink

/-- Puts chunks on the inbox, and announces each of them to a subscriber. -/
def bring (l : AnsweringLink) (chunks : List (List UInt8)) : AnsweringLink :=
  let signals := chunks.map fun c => PollSignal.announcement c.length
  { l with
    chunks := l.chunks ++ chunks
    notifications := match l.notifications with
      | some (.notifications waiting false) => some (.notifications (waiting ++ signals) false)
      | other => other }

/-- The effect and the result of a call that does not fail. The poll signal counts the chunks that
wait. -/
def perform (l : AnsweringLink) : (call : LinkCall) → AnsweringLink × call.Result
  | .connect => ({ l with lost := some false }, l.peer)
  | .discover => (l, l.services)
  | .subscribe _ =>
    let l := { l with notifications := some (.notifications [] false), greeting := [] }.bring
      l.greeting
    (l, ())
  | .write _ _ =>
    let l := { l with replies := l.replies.tail }.bring (l.replies.headD [])
    (if l.losesAfterWrite then { l with lost := l.lost.map fun _ => true } else l, ())
  | .read c =>
    if c.uuid = inboxUuid then ({ l with chunks := l.chunks.tail }, l.chunks.headD [])
    else (l, PollSignal.announcement l.chunks.length)
  | .disconnect => (l, ())

def finishCall (l : AnsweringLink) (call : LinkCall) :
    AnsweringLink × Option (Except LinkError call.Result) :=
  let l := if call.kind = .disconnect then { l with lost := none, notifications := none } else l
  match l.failures.lookup call.kind with
  | some e => (l, some (.error e))
  | none =>
    let (l, r) := l.perform call
    (l, some (.ok r))

instance : Adapter AnsweringLink where
  start l call := (if call.kind = .readPollSignal then l else { l with log := l.log ++ [call] }, 0)
  finish := finishCall
  isLost l := l.lost.getD false
  notifications l := l.notifications
  keep l left := { l with notifications := some left }
  arrivals l := l.greeting.length + l.replies.flatten.length

end AnsweringLink

end GattRpc
