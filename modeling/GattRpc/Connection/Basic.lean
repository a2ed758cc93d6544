import GattRpc.Correlator
import GattRpc.Frame
import GattRpc.Poll

/-! # The state of a connection

A connection owns the link, the accumulator of the inbox and the correlator. What others may see of
it is its `LinkStatus`; what it lets them know are `Output`s: each change of the status, events,
settled callbacks and replies to commands. -/

namespace GattRpc

namespace Options

/-- The period at which outstanding requests are checked for their age. -/
def sweepPeriod : Nat := 250

/-- The poll period unless one is given. -/
def defaultPollPeriod : Nat := 1000

/-- How many commands may wait unless that is given. -/
def defaultCommandQueue : Nat := 32

/-- The largest command queue that can be made. -/
def maxCommandQueue : Nat := 0x1FFFFFFFFFFFFFFF

end Options

structure Options where
  pollMode : PollMode := .notify
  /-- Requests without a response fail after this time. -/
  requestTimeout : Option Nat := none
  cancelPolicy : CancelPolicy := .notify
  /-- How many commands may wait. -/
  commandQueue : Nat := Options.defaultCommandQueue
  /-- The largest record that is accepted on the inbox. -/
  maxFrameLen : Nat := Frame.defaultLimit
  /-- The order in which outstanding requests are released when the connection closes. A client does
  not choose it, and cannot know it. -/
  drain : Drain := .ascending

/-- What a client can see of its connection. -/
structure LinkStatus where
  state : ConnectionState := .disconnected
  peer : Option String := none
  outstanding : Nat := 0
  lastError : Option String := none
  closeReason : Option CloseReason := none
deriving DecidableEq, Repr

def LinkStatus.isReady (s : LinkStatus) : Bool := s.state = .ready

inductive Event
  | stateChanged (state : ConnectionState)
  | notification (method : String) (params : Json)
  | frameDropped (d : Frame.Dropped)
  | orphanResponse (id : RequestId)
  | closed (reason : CloseReason)
deriving DecidableEq

/-- What a client asks of its connection. -/
inductive Command
  | connect
  | send (method : String) (params : Json) (callback : Option Callback)
  | close
deriving DecidableEq

/-- The answer to a command. -/
inductive Reply
  | connect (r : Except RpcError Unit)
  | send (r : Except RpcError RequestId)
  | close

/-- What a connection lets others know, in the order in which it does. Its status can be looked at
from any other thread, at any time: what is shown is what everybody sees from then on. A reply
carries the ticket of its command. A discarded callback is told nothing. -/
inductive Output
  | shown (status : LinkStatus)
  | event (e : Event)
  | settled (s : Settlement)
  | discarded (c : Callback)
  | reply (ticket : Nat) (r : Reply)

/-- The characteristics of a connection that is ready. -/
structure Channel where
  inbox : Characteristic
  pollSignal : Characteristic
deriving DecidableEq, Repr

structure Connection where
  options : Options
  state : ConnectionState := .disconnected
  accumulator : Accumulator
  correlator : Correlator
  signals : SignalTally := {}
  /-- The characteristics in use, while signals are awaited on them: the source of the signals comes
  with them, and goes with them. -/
  channel : Option Channel := none
  /-- The loss of the link is awaited. -/
  watching : Bool := false
  /-- The age of outstanding requests is checked from time to time. -/
  sweeping : Bool
  status : LinkStatus := {}

/-- A connection that has not been asked to connect. -/
def Connection.new (options : Options) : Connection where
  options
  accumulator := { limit := options.maxFrameLen }
  correlator := { policy := options.cancelPolicy }
  sweeping := options.requestTimeout.isSome

end GattRpc
