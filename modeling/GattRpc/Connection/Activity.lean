import GattRpc.Connection.Basic

/-! # Activities

While a connection handles a stimulus it calls the link and waits for each answer before it goes
on. An `Activity` is such a course of action: from a connection it runs to its end, to the next
call of the link, or to a crash, and it gives the outputs made on the way. -/

namespace GattRpc

inductive LinkCall
  | connect
  | discover
  | subscribe (c : Characteristic)
  | write (c : Characteristic) (data : List UInt8)
  | read (c : Characteristic)
  | disconnect
deriving DecidableEq, Repr

/-- What a call gives if it succeeds: connecting gives the name of the peer. -/
def LinkCall.Result : LinkCall → Type
  | connect => String
  | discover => List Service
  | read _ => List UInt8
  | subscribe _ | write _ _ | disconnect => Unit

/-- The answer to a call, and the time at which it came. -/
structure LinkAnswer (call : LinkCall) where
  time : Nat
  result : Except LinkError call.Result

/-- How far an activity has come: each case holds the connection as it is then and the outputs
since the last answer of the link. -/
inductive Progress (α : Type)
  | done (value : α) (c : Connection) (out : List Output)
  | waiting (c : Connection) (out : List Output) (call : LinkCall)
      (resume : LinkAnswer call → Progress α)
  | crashed (c : Connection) (out : List Output)

namespace Progress

variable {α β : Type}

/-- The same progress, with outputs made before it. -/
def after (out : List Output) : Progress α → Progress α
  | done a c more => .done a c (out ++ more)
  | waiting c more call resume => .waiting c (out ++ more) call resume
  | crashed c more => .crashed c (out ++ more)

/-- Goes on with `next` at the end. -/
def bind (p : Progress α) (next : α → Connection → Progress β) : Progress β :=
  match p with
  | done a c out => (next a c).after out
  | waiting c out call resume => .waiting c out call fun answer => (resume answer).bind next
  | crashed c out => .crashed c out

end Progress

def Activity (α : Type) := Connection → Progress α

namespace Activity

variable {α : Type}

instance : Monad Activity where
  pure a := fun c => .done a c []
  bind x f := fun c => (x c).bind f

/-- The connection as it is. -/
def get : Activity Connection := fun c => .done c c []

def modify (f : Connection → Connection) : Activity Unit := fun c => .done () (f c) []

/-- Changes what others can see, which they do at once. -/
def report (f : LinkStatus → LinkStatus) : Activity Unit := fun c =>
  .done () { c with status := f c.status } [.shown (f c.status)]

def tell (out : List Output) : Activity Unit := fun c => .done () c out

def emit (e : Event) : Activity Unit := tell [.event e]

/-- Calls the link and waits for its answer. -/
def call (l : LinkCall) : Activity (LinkAnswer l) := fun c =>
  .waiting c [] l fun answer => .done answer c []

/-- The task of the connection ends here. -/
def crash : Activity α := fun c => .crashed c []

end Activity

end GattRpc
