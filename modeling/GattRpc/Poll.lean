/-! # Poll signals

The peripheral cannot push messages. It announces how many bytes wait on the inbox, by a
notification or in the value of a characteristic that is read from time to time, and each
announcement of at least one byte is followed by one read of the inbox. Times are in
milliseconds. -/

namespace GattRpc

/-- How the client learns that messages wait: it subscribes to the signal, or reads it at a fixed
period. -/
inductive PollMode
  | notify
  | interval (period : Nat)
deriving DecidableEq, Repr

namespace PollSignal

/-- How many bytes the counter of a signal takes. -/
def length : Nat := 4

/-- The number that bytes spell, the most significant first. -/
def bigEndian (bs : List UInt8) : Nat := bs.foldl (fun n b => 256 * n + b.toNat) 0

/-- The signal that announces `n` bytes. -/
def announcement (n : Nat) : List UInt8 :=
  [n / 0x1000000, n / 0x10000, n / 0x100, n].map UInt8.ofNat

/-- How many bytes a signal announces. A short signal and one of zero bytes announce nothing. -/
def announced? (payload : List UInt8) : Option Nat :=
  if payload.length < length then none
  else match bigEndian (payload.take length) with
    | 0 => none
    | n => some n

end PollSignal

/-- How many signals came, and how many of them announced nothing or something. -/
structure SignalTally where
  signals : Nat := 0
  ignored : Nat := 0
  reads : Nat := 0
deriving DecidableEq, Repr

/-- Counts a signal. -/
def SignalTally.count (t : SignalTally) (payload : List UInt8) : SignalTally :=
  if (PollSignal.announced? payload).isSome then
    { t with signals := t.signals + 1, reads := t.reads + 1 }
  else { t with signals := t.signals + 1, ignored := t.ignored + 1 }

/-- A timer that comes due again and again. -/
structure IntervalTimer where
  period : Nat
  deadline : Nat
deriving DecidableEq, Repr

namespace IntervalTimer

/-- How late a tick may be taken without delaying the ticks after it. -/
def tolerance : Nat := 5

/-- A timer that is due at once. -/
def start (period now : Nat) : IntervalTimer := ⟨period, now⟩

def isDue (t : IntervalTimer) (now : Nat) : Bool := t.deadline ≤ now

/-- Takes a tick. The next one follows a period after the deadline, or after now if this one is
taken too late. -/
def take (t : IntervalTimer) (now : Nat) : IntervalTimer :=
  if now ≤ t.deadline + tolerance then { t with deadline := t.deadline + t.period }
  else { t with deadline := now + t.period }

end IntervalTimer

/-- What a source of signals gives: a signal, the time to read one, or its end. -/
inductive PollTick
  | signal (payload : List UInt8)
  | due
  | ended
deriving DecidableEq, Repr

/-- Where signals come from: a stream of notifications, which may have ended, or a timer. -/
inductive PollSource
  | notifications (waiting : List (List UInt8)) (ended : Bool)
  | timer (t : IntervalTimer)
deriving DecidableEq, Repr

namespace PollSource

/-- Takes what the source has to give. -/
def next? (now : Nat) : PollSource → Option (PollTick × PollSource)
  | notifications (payload :: waiting) ended => some (.signal payload, .notifications waiting ended)
  | notifications [] true => some (.ended, .notifications [] true)
  | notifications [] false => none
  | timer t => if t.isDue now then some (.due, .timer (t.take now)) else none

end PollSource

end GattRpc
