import GattRpc.Connection.Basic

/-! # Settings

What a configuration file says: which device to talk to, and how. Where it says nothing the
defaults hold. -/

namespace GattRpc

structure Settings.Device where
  /-- The Bluetooth address of the peripheral, as it is written. -/
  address : Option String := none
deriving DecidableEq, Repr

/-- How waiting messages are noticed. -/
inductive Settings.Polling
  | notify
  | interval
deriving DecidableEq, Repr

structure Settings.Rpc where
  polling : Settings.Polling := .notify
  /-- The poll period in milliseconds, if polling is by interval. -/
  pollInterval : UInt64 := .ofNat Options.defaultPollPeriod
  /-- How long a request may wait for its response, in milliseconds. -/
  requestTimeout : Option UInt64 := none
  cancelPolicy : CancelPolicy := .notify
  commandQueue : UInt64 := .ofNat Options.defaultCommandQueue
deriving DecidableEq, Repr

structure Settings where
  device : Settings.Device := {}
  rpc : Settings.Rpc := {}
deriving DecidableEq, Repr

namespace Settings

/-- The options of a connection with these settings. Polling by interval has a period of at least
one millisecond. -/
def options (s : Settings) : Options where
  pollMode := match s.rpc.polling with
    | .notify => .notify
    | .interval => .interval (max s.rpc.pollInterval.toNat 1)
  requestTimeout := s.rpc.requestTimeout.map UInt64.toNat
  cancelPolicy := s.rpc.cancelPolicy
  commandQueue := s.rpc.commandQueue.toNat

end Settings

end GattRpc
