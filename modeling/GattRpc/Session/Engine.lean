import GattRpc.Connection.Handler

/-! # The task of a connection

An engine runs a connection over a link. It takes commands in the order in which they were queued,
one at a time, and while the link has not answered it does nothing else. Whatever is ready it
serves in this order: commands, the end of the clients, the loss of the link, poll ticks, checks
for old requests. -/

namespace GattRpc

/-- A link whose calls take time. -/
class Adapter (L : Type) where
  /-- Begins a call, and tells how long it takes. -/
  start : L → LinkCall → L × Nat
  /-- Ends a call. No result means that the adapter itself fails, and with it the engine. -/
  finish : L → (call : LinkCall) → L × Option (Except LinkError call.Result)
  /-- The link has reported that it is lost. -/
  isLost : L → Bool
  /-- The notifications that the link has ready, if they are subscribed. -/
  notifications : L → Option PollSource
  /-- Leaves only these notifications. -/
  keep : L → PollSource → L
  /-- How many more notifications the calls may still bring by themselves. -/
  arrivals : L → Nat

/-- A call that the link has not answered. -/
structure Waiting where
  call : LinkCall
  due : Nat
  resume : LinkAnswer call → Progress Unit

structure Engine (L : Type) where
  link : L
  connection : Connection
  queue : List (Nat × Command) := []
  waiting : Option Waiting := none
  pollTimer : Option IntervalTimer := none
  sweepTimer : Option IntervalTimer := none
  /-- The task is over: no command will be taken any more. -/
  ended : Bool := false

namespace Engine

variable {L : Type}

/-- An engine whose sweep timer starts with it. -/
def new (link : L) (options : Options) (now : Nat) : Engine L where
  link
  connection := .new options
  sweepTimer := options.requestTimeout.map fun _ => .start Options.sweepPeriod now

/-- Keeps the timers in step with the connection: a poll timer starts when polling by interval
does, and each timer stops when it is no longer needed. -/
def adjustTimers (e : Engine L) (now : Nat) : Engine L :=
  let pollTimer :=
    match e.connection.channel, e.connection.options.pollMode with
    | some _, .interval period => some (e.pollTimer.getD (.start period now))
    | _, _ => none
  { e with pollTimer, sweepTimer := if e.connection.sweeping then e.sweepTimer else none }

variable [Adapter L]

/-- Takes up the progress of an activity. -/
def absorb (e : Engine L) (now : Nat) : Progress Unit → Engine L × List Output
  | .done () connection out => ({ e with connection, waiting := none }.adjustTimers now, out)
  | .waiting connection out call resume =>
    let (link, delay) := Adapter.start e.link call
    ({ e with link, connection, waiting := some ⟨call, now + delay, resume⟩ }, out)
  | .crashed connection out => ({ e with connection, waiting := none, ended := true }, out)

/-- Hands a stimulus to the connection. -/
def serve (e : Engine L) (now : Nat) (s : Stimulus) : Engine L × List Output :=
  e.absorb now (Connection.handle s e.connection)

/-- The next poll tick, and the engine without it. -/
def pollTick? (e : Engine L) (now : Nat) : Option (PollTick × Engine L) :=
  match e.connection.channel, e.connection.options.pollMode with
  | some _, .notify => do
    let (tick, left) ← (← Adapter.notifications e.link).next? now
    some (tick, { e with link := Adapter.keep e.link left })
  | some _, .interval _ => do
    let timer ← e.pollTimer
    if timer.isDue now then some (.due, { e with pollTimer := some (timer.take now) }) else none
  | none, _ => none

/-- The next check for old requests, if it is due. -/
def sweepTick? (e : Engine L) (now : Nat) : Option (Engine L) := do
  let timer ← e.sweepTimer
  if timer.isDue now then some { e with sweepTimer := some (timer.take now) } else none

/-- Does the next thing that can be done now, if there is one. -/
def step (e : Engine L) (now : Nat) (clientsGone : Bool) : Option (Engine L × List Output) :=
  if e.ended then none
  else match e.waiting with
    | some w =>
      if w.due ≤ now then
        match Adapter.finish e.link w.call with
        | (link, none) => some ({ e with link, waiting := none, ended := true }, [])
        | (link, some result) => some ({ e with link }.absorb now (w.resume ⟨now, result⟩))
      else none
    | none =>
      match e.queue with
      | (ticket, command) :: queue => some ({ e with queue }.serve now (.command ticket command))
      | [] =>
        if clientsGone then
          let (e, out) := e.serve now .clientsGone
          some (if e.waiting.isNone then { e with ended := true } else e, out)
        else if e.connection.watching && Adapter.isLost e.link then some (e.serve now .linkLost)
        else match e.pollTick? now with
          | some (tick, e) => some (e.serve now (.poll tick))
          | none => (e.sweepTick? now).map fun e => e.serve now (.sweep now)

/-- A bound on the steps that can be done at one time: each thing served calls the link five times
at most, and a timer that is late comes due `tolerance` times again. -/
def patience (e : Engine L) : Nat :=
  let waiting := match Adapter.notifications e.link with
    | some (.notifications payloads _) => payloads.length
    | _ => 0
  6 * (e.queue.length + waiting + Adapter.arrivals e.link + 2 * (IntervalTimer.tolerance + 2) + 3)

/-- The next time after `now` at which something can be done without a new command. -/
def nextDue (e : Engine L) : Option Nat :=
  if e.ended then none
  else match e.waiting with
    | some w => some w.due
    | none =>
      match e.pollTimer, e.sweepTimer with
      | some p, some s => some (min p.deadline s.deadline)
      | some p, none => some p.deadline
      | none, some s => some s.deadline
      | none, none => none

end Engine

end GattRpc
