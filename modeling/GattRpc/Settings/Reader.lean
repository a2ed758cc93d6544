import GattRpc.Settings.Basic
import GattRpc.Toml.Parser
import GattRpc.Toml.Typed

/-! # Reading settings

Settings are read from a TOML table, member by member in the order of the document; the first
member of the wrong shape ends it. Members with other names are skipped. -/

namespace GattRpc

namespace Settings

open Toml

def Polling.names : List (String × Polling) := [("notify", .notify), ("interval", .interval)]

def cancelPolicyNames : List (String × CancelPolicy) := [("notify", .notify), ("drop", .drop)]

def Device.set (d : Device) : String × Toml → Except Mismatch Device
  | ("address", v) => do return { d with address := some (← v.found.toText) }
  | _ => .ok d

def Rpc.set (r : Rpc) : String × Toml → Except Mismatch Rpc
  | ("poll_mode", v) => do return { r with polling := ← choice Polling.names v }
  | ("poll_interval_ms", v) => do return { r with pollInterval := ← v.found.toUInt64 .unsigned64 }
  | ("request_timeout_ms", v) => do
    return { r with requestTimeout := some (← v.found.toUInt64 .unsigned64) }
  | ("cancel_policy", v) => do return { r with cancelPolicy := ← choice cancelPolicyNames v }
  | ("command_queue", v) => do return { r with commandQueue := ← v.found.toUInt64 .size }
  | _ => .ok r

def Device.fromToml (v : Toml) : Except Mismatch Device := do
  (← fields "DeviceConfig" ["address"] v).foldlM Device.set {}

def Rpc.fromToml (v : Toml) : Except Mismatch Rpc := do
  let names :=
    ["poll_mode", "poll_interval_ms", "request_timeout_ms", "cancel_policy", "command_queue"]
  (← fields "RpcConfig" names v).foldlM Rpc.set {}

def set (s : Settings) : String × Toml → Except Mismatch Settings
  | ("device", v) => do return { s with device := ← Device.fromToml v }
  | ("rpc", v) => do return { s with rpc := ← Rpc.fromToml v }
  | _ => .ok s

def fromToml (v : Toml) : Except Mismatch Settings := do
  (← fields "Config" ["device", "rpc"] v).foldlM set {}

/-- Why a text holds no settings. -/
inductive Refusal
  /-- It is not a TOML document. -/
  | syntaxError
  | mismatch (m : Mismatch)
deriving DecidableEq, Repr

/-- The settings that a text holds. -/
def parse (text : String) : Except Refusal Settings :=
  match Toml.parse text with
  | none => .error .syntaxError
  | some v => (fromToml v).mapError .mismatch

end Settings

end GattRpc
