import GattRpc.Json.Basic
import GattRpc.Shape

/-! # Fields of a record, from a value

What a value is taken for, and the readers of integers, strings and optional fields. -/

namespace GattRpc.Json

/-- What a value is, where something else is wanted. -/
def found : Json → Found
  | .null => .null
  | .boolean b => .boolean b
  | .number (.integer i _) => .integer i
  | .number (.float x _) => .float x
  | .string s => .string s
  | .array _ => .sequence
  | .object _ => .map

end GattRpc.Json

namespace GattRpc.Json

def toUInt64 (v : Json) : Except Mismatch UInt64 := v.found.toUInt64 .unsigned64

def toInt64 (v : Json) : Except Mismatch Int64 := v.found.toInt64

def toText (v : Json) : Except Mismatch String := v.found.toText

/-- A field that may be null. -/
def toOption {α : Type} (read : Json → Except Mismatch α) : Json → Except Mismatch (Option α)
  | .null => .ok none
  | v => some <$> read v

/-- A field that may be absent. -/
def field? {α : Type} (members : List (String × Json)) (name : String)
    (read : Json → Except Mismatch α) : Except Mismatch (Option α) :=
  match members.lookup name with
  | none => .ok none
  | some v => some <$> read v

/-- The item at a place of a list, if the list is long enough. -/
def item? {α : Type} (items : List Json) (place : Nat) (read : Json → Except Mismatch α) :
    Except Mismatch (Option α) :=
  match items[place]? with
  | none => .ok none
  | some v => some <$> read v

/-- A list read as a record of `size` fields has no further items. -/
def noMoreThan (size : Nat) (items : List Json) : Except Mismatch Unit :=
  if items.length ≤ size then .ok () else .error (.tooMany items.length)

end GattRpc.Json
