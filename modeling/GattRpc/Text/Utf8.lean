/-! # UTF-8

The bytes of a text, the text of some bytes, and how many bytes at the front of a byte string are
well-formed UTF-8. Decoding undoes encoding. -/

namespace GattRpc.Utf8

/-- The bytes of a text. -/
def encode (s : String) : List UInt8 :=
  s.toByteArray.data.toList

/-- The text with these bytes, if they are well-formed. -/
def decode? (bs : List UInt8) : Option String :=
  String.fromUTF8? ⟨bs.toArray⟩

@[simp] theorem decode?_encode (s : String) : decode? (encode s) = some s := by
  rw [decode?, encode, String.fromUTF8?, Array.toArray_toList, dif_pos s.isValidUTF8]
  rfl

/-- The character that starts a byte string, if one does. -/
def firstChar? (bs : List UInt8) : Option Char :=
  ByteArray.utf8DecodeChar? ⟨(bs.take 4).toArray⟩ 0

/-- How many bytes at the front are whole characters. -/
def validPrefix (bs : List UInt8) : Nat :=
  match bs with
  | [] => 0
  | b :: rest =>
    match firstChar? (b :: rest) with
    | none => 0
    | some c => c.utf8Size + validPrefix (rest.drop (c.utf8Size - 1))
  termination_by bs.length
  decreasing_by simp only [List.length_drop, List.length_cons]; omega

end GattRpc.Utf8
