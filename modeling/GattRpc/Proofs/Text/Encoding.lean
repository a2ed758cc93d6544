import GattRpc.Text.Decimal
import GattRpc.Text.Hexadecimal
import GattRpc.Text.Utf8

/-! # The bytes of characters

A text is encoded character by character. A character below U+0080 is one byte, of its own value;
the bytes of any other are all from `0x80` on. -/

namespace GattRpc

namespace Utf8

/-- The bytes of some characters. -/
def bytes (cs : List Char) : List UInt8 := cs.flatMap String.utf8EncodeChar

variable {c : Char} {cs ds : List Char} {b : UInt8}

theorem encode_ofList : encode (String.ofList cs) = bytes cs := by
  simp [encode, bytes, List.utf8Encode]

theorem encode_eq (s : String) : encode s = bytes s.toList := by
  rw [← encode_ofList, String.ofList_toList]

@[simp] theorem bytes_nil : bytes [] = [] := rfl

@[simp] theorem bytes_append : bytes (cs ++ ds) = bytes cs ++ bytes ds := List.flatMap_append

theorem encodeChar_ascii (low : c.toNat < 0x80) : String.utf8EncodeChar c = [c.toUInt8] := by
  have low : c.val.toNat ≤ 127 := Nat.le_of_lt_succ low
  rw [String.utf8EncodeChar]
  simp only [if_pos low]
  rfl

theorem toNat_toUInt8 (low : c.toNat < 0x80) : c.toUInt8.toNat = c.toNat :=
  Nat.mod_eq_of_lt (Nat.lt_trans low (by decide))

theorem bytes_cons_ascii (low : c.toNat < 0x80) : bytes (c :: cs) = c.toUInt8 :: bytes cs := by
  rw [bytes, List.flatMap_cons, encodeChar_ascii low]
  rfl

theorem le_of_mem_encodeChar (high : 0x80 ≤ c.toNat) (hb : b ∈ String.utf8EncodeChar c) :
    0x80 ≤ b := by
  have high : ¬ c.val.toNat ≤ 127 := Nat.not_le.2 high
  have ofNat {n : Nat} (h : 0x80 ≤ n % 256) : 0x80 ≤ UInt8.ofNat n := by
    rw [UInt8.le_iff_toNat_le]
    simpa using h
  simp only [String.utf8EncodeChar, if_neg high] at hb
  split at hb
  · simp only [List.mem_cons, List.not_mem_nil, or_false] at hb
    rcases hb with rfl | rfl <;> refine ofNat ?_ <;> omega
  split at hb
  · simp only [List.mem_cons, List.not_mem_nil, or_false] at hb
    rcases hb with rfl | rfl | rfl <;> refine ofNat ?_ <;> omega
  · simp only [List.mem_cons, List.not_mem_nil, or_false] at hb
    rcases hb with rfl | rfl | rfl | rfl <;> refine ofNat ?_ <;> omega

end Utf8

end GattRpc
