import GattRpc.Settings.Basic
import GattRpc.Text.Decimal
import GattRpc.Toml.Quoted

/-! # Writing settings

Settings are written as a TOML document with one section for the device and one for the
connection. What is not set is left out. Integers of TOML have 64 bits with a sign, so a number
that does not fit them cannot be written. -/

namespace GattRpc.Settings

/-- A line that gives a key its value. -/
def entry (key : String) (value : List Char) : List Char :=
  key.toList ++ [' ', '=', ' '] ++ value ++ ['\n']

/-- The digits of a number that fits a signed integer. -/
def integer? (n : UInt64) : Option (List Char) :=
  if n.toNat < 0x8000000000000000 then some (Decimal.digits n.toNat) else none

def Polling.name : Polling → String
  | notify => "notify"
  | interval => "interval"

def cancelPolicyName : CancelPolicy → String
  | .notify => "notify"
  | .drop => "drop"

def deviceLines (d : Device) : List Char :=
  "[device]\n".toList ++ (d.address.map fun a => entry "address" (Toml.quotedString a)).getD []

def rpcLines? (r : Rpc) : Option (List Char) := do
  let pollInterval ← integer? r.pollInterval
  let requestTimeout ← r.requestTimeout.mapM integer?
  let commandQueue ← integer? r.commandQueue
  return "[rpc]\n".toList
    ++ entry "poll_mode" (Toml.quotedString r.polling.name)
    ++ entry "poll_interval_ms" pollInterval
    ++ (requestTimeout.map (entry "request_timeout_ms")).getD []
    ++ entry "cancel_policy" (Toml.quotedString (cancelPolicyName r.cancelPolicy))
    ++ entry "command_queue" commandQueue

/-- The document that holds the settings, if every number can be written. -/
def text? (s : Settings) : Option String := do
  let rpc ← rpcLines? s.rpc
  return String.ofList (deviceLines s.device ++ '\n' :: rpc)

end GattRpc.Settings
