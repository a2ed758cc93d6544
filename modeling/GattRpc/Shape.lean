import GattRpc.Binary64.Shortest
import GattRpc.Text.Debug

/-! # Values of the wrong shape

When a record is read from a document of loosely typed values, a value may be of the wrong kind,
out of range, missing, given twice, or one of too few or too many. Each is a `Mismatch`; its
wording is in `Mismatch.message`. -/

namespace GattRpc

/-- What a document holds where a value of some kind is wanted. -/
inductive Found
  | null
  | boolean (b : Bool)
  | integer (i : Int)
  | float (x : Binary64)
  | string (s : String)
  | sequence
  | map
deriving DecidableEq, Repr

/-- What is wanted there. -/
inductive Wanted
  | unsigned64
  | signed64
  | size
  | string
  | record (name : String)
deriving DecidableEq, Repr

inductive Mismatch
  | kind (found : Found) (wanted : Wanted)
  | range (found : Int) (wanted : Wanted)
  | missingField (name : String)
  | duplicateField (name : String)
  | tooFew (given : Nat) (record : String) (size : Nat)
  | tooMany (given : Nat)
  | unknownChoice (given : String) (choices : List String)
  | notAChoice
  | noChoice
  | severalChoices
  | choiceWithPayload (payload : String)
deriving DecidableEq, Repr

namespace Found

/-- An unsigned number of 64 bits, wanted as a number or as a size. -/
def toUInt64 (wanted : Wanted) : Found → Except Mismatch UInt64
  | integer i =>
    if 0 ≤ i ∧ i < 0x10000000000000000 then .ok (UInt64.ofNat i.toNat) else .error (.range i wanted)
  | other => .error (.kind other wanted)

def toInt64 : Found → Except Mismatch Int64
  | integer i =>
    if -0x8000000000000000 ≤ i ∧ i < 0x8000000000000000 then .ok (Int64.ofInt i)
    else .error (.range i .signed64)
  | other => .error (.kind other .signed64)

def toText : Found → Except Mismatch String
  | string s => .ok s
  | other => .error (.kind other .string)

end Found

def Found.text (layout : Binary64.Layout) : Found → String
  | null => "null"
  | boolean b => s!"boolean `{b}`"
  | integer i => s!"integer `{i}`"
  | float x => s!"floating point `{String.ofList (x.text layout)}`"
  | string s => s!"string {diagnosticQuoted s}"
  | sequence => "sequence"
  | map => "map"

def Wanted.text : Wanted → String
  | unsigned64 => "u64"
  | signed64 => "i64"
  | size => "usize"
  | string => "a string"
  | record name => s!"struct {name}"

/-- The wording of a mismatch, with floats laid out as the document's format does. -/
def Mismatch.message (layout : Binary64.Layout) : Mismatch → String
  | kind found wanted => s!"invalid type: {found.text layout}, expected {wanted.text}"
  | range found wanted => s!"invalid value: integer `{found}`, expected {wanted.text}"
  | missingField name => s!"missing field `{name}`"
  | duplicateField name => s!"duplicate field `{name}`"
  | tooFew given record size =>
    s!"invalid length {given}, expected struct {record} with {size} elements"
  | tooMany given => s!"invalid length {given}, expected fewer elements in array"
  | unknownChoice given choices =>
    s!"unknown variant `{given}`, expected " ++ " or ".intercalate (choices.map fun c => s!"`{c}`")
  | notAChoice => "wanted string or table"
  | noChoice => "wanted exactly 1 element, found 0 elements"
  | severalChoices => "wanted exactly 1 element, more than 1 element"
  | choiceWithPayload payload => s!"expected {payload}"

end GattRpc
