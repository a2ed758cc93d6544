/-! # Hexadecimal digits

The digits of base sixteen, as characters and as the numbers below sixteen that they stand for. -/

namespace GattRpc.Hexadecimal

/-- The character of a digit, in small letters. -/
def small (d : Nat) : Char := if d < 10 then Char.ofNat (0x30 + d) else Char.ofNat (0x57 + d)

/-- The character of a digit, in capital letters. -/
def capital (d : Nat) : Char := if d < 10 then Char.ofNat (0x30 + d) else Char.ofNat (0x37 + d)

/-- The digit that a character is, in either case. -/
def value? (c : Char) : Option Nat :=
  if '0' ≤ c ∧ c ≤ '9' then some (c.toNat - '0'.toNat)
  else if 'a' ≤ c ∧ c ≤ 'f' then some (c.toNat - 'a'.toNat + 10)
  else if 'A' ≤ c ∧ c ≤ 'F' then some (c.toNat - 'A'.toNat + 10)
  else none

end GattRpc.Hexadecimal
