import GattRpc.Shape
import GattRpc.Toml.Basic

/-! # Records and choices in TOML

What a value is taken for where something else is wanted, and the readers of records and of
choices. A record may also be written as an array of its fields in order, and a choice as a table
with its name as the only key. -/

namespace GattRpc.Toml

/-- Floats in messages are positional and have a point. -/
def floatLayout : Binary64.Layout := { positional := fun _ => true, tie := .up }

/-- What a value is, where something else is wanted. A date is a map. -/
def found : Toml → Found
  | string s => .string s
  | integer i => .integer i
  | float x => .float x
  | boolean b => .boolean b
  | array _ | tables _ => .sequence
  | dateTime | table _ _ => .map

/-- What a value is called where a table is wanted. -/
def kindName : Toml → String
  | string _ => "string"
  | integer _ => "integer"
  | float _ => "float"
  | boolean _ => "boolean"
  | dateTime => "datetime"
  | array _ => "array"
  | tables _ => "array of tables"
  | table _ _ => "table"

/-- The fields of a record, in the order in which they come. -/
def fields (record : String) (names : List String) : Toml → Except Mismatch (List (String × Toml))
  | table _ ms => .ok ms
  | dateTime => .ok []
  | array items | tables items => .ok (names.zip items)
  | v => .error (.kind v.found (.record record))

/-- Nothing may be attached to a choice. -/
def noPayload : Toml → Except Mismatch Unit
  | table _ [] | array [] | tables [] => .ok ()
  | tables _ => .error (.choiceWithPayload "empty array")
  | table _ _ | array _ => .error (.choiceWithPayload "empty table")
  | v => .error (.choiceWithPayload s!"table, found {v.kindName}")

/-- The choice of a name. -/
def choiceOf {α : Type} (choices : List (String × α)) (name : String) : Except Mismatch α :=
  match choices.lookup name with
  | some a => .ok a
  | none => .error (.unknownChoice name (choices.map Prod.fst))

/-- One of several choices, by its name or as a table with that one key. -/
def choice {α : Type} (choices : List (String × α)) : Toml → Except Mismatch α
  | string s => choiceOf choices s
  | table _ [] => .error .noChoice
  | table _ [(name, payload)] => do
    let a ← choiceOf choices name
    noPayload payload
    return a
  | table _ _ => .error .severalChoices
  | _ => .error .notAChoice

end GattRpc.Toml
