import GattRpc.Connection.Basic

/-! # The event channel

Events wait for their receiver in a channel of bounded size. An event that finds the channel full,
or its receiver gone, is lost; the connection never waits. -/

namespace GattRpc

structure EventChannel where
  waiting : List Event := []
  /-- There is still a receiver. -/
  isOpen : Bool := true
deriving DecidableEq

namespace EventChannel

/-- How many events may wait. -/
def capacity : Nat := 64

/-- Puts an event at the end, if there is room and a receiver. -/
def offer (c : EventChannel) (e : Event) : EventChannel :=
  if c.isOpen && c.waiting.length < capacity then { c with waiting := c.waiting ++ [e] } else c

/-- Takes all events that wait. -/
def drain (c : EventChannel) : EventChannel × List Event := ({ c with waiting := [] }, c.waiting)

/-- The receiver goes away, with all that waits for it. -/
def close (_ : EventChannel) : EventChannel := { waiting := [], isOpen := false }

end EventChannel

end GattRpc
