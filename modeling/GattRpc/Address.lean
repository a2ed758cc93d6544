import GattRpc.Text.Hexadecimal

/-! # Bluetooth addresses

Six bytes, written in hexadecimal with colons between them. A byte may be read with a plus sign and
with leading zeros, but is always written with two digits. -/

namespace GattRpc

structure Address where
  octets : List UInt8
  size_eq : octets.length = 6 := by decide
deriving DecidableEq, Repr

namespace Address

/-- The number that hexadecimal digits spell, if there are any. -/
def hexValue? : List Char → Option Nat
  | [] => none
  | ds => ds.foldlM (fun n c => (Hexadecimal.value? c).map (16 * n + ·)) 0

/-- A byte, as one field of an address. -/
def octet? (field : String) : Option UInt8 :=
  let ds := match field.toList with
    | '+' :: ds => ds
    | ds => ds
  match hexValue? ds with
  | some n => if n < 256 then some (UInt8.ofNat n) else none
  | none => none

/-- Reads a field, or gives it back. -/
def octet (field : String) : Except String UInt8 :=
  match octet? field with
  | some b => .ok b
  | none => .error field

/-- Reads an address. What is wrong is given back: the first field that is no byte, or the whole
text if there are not six. -/
def parse (text : String) : Except String Address := do
  let octets ← (text.splitOn ":").mapM octet
  if h : octets.length = 6 then .ok ⟨octets, h⟩ else .error text

def octetText (b : UInt8) : String :=
  String.ofList [Hexadecimal.capital (b.toNat / 16), Hexadecimal.capital (b.toNat % 16)]

def text (a : Address) : String := ":".intercalate (a.octets.map octetText)

end Address

end GattRpc
