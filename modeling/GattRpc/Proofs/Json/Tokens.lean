import GattRpc.Json.Scanner
import GattRpc.Json.Printer
import GattRpc.Proofs.Text.Encoding

/-! # Reading printed numbers and strings

The readers of numbers and strings undo the printer, whatever follows in a compact text. Fuel is
counted in bytes of the text that is left, which is as much as any reader needs. -/

namespace GattRpc.Json

namespace Read

/-- What follows a value in a compact text: its end, or a comma or the end of a container. -/
def Stops (rest : List UInt8) : Prop :=
  ∀ b ∈ rest.head?, b = ','.toUInt8 ∨ b = ']'.toUInt8 ∨ b = '}'.toUInt8

variable {n limit : Nat} {b : UInt8} {bs ds rest : List UInt8}

/-! ### Numbers -/

/-- The number whose digits are those of `n` and then `ds`. -/
def digitsValue (n : Nat) (ds : List UInt8) : Nat := ds.foldl (fun n d => 10 * n + digitValue d) n

theorem le_digitsValue : n ≤ digitsValue n ds := by
  induction ds generalizing n with
  | nil => exact Nat.le_refl n
  | cons d ds ih => exact Nat.le_trans (by omega) (ih (n := 10 * n + digitValue d))

theorem absorb_digits (le : digitsValue n ds ≤ limit) :
    absorb limit n ds = (digitsValue n ds, []) := by
  induction ds generalizing n with
  | nil => rfl
  | cons d ds ih =>
    have first : 10 * n + digitValue d ≤ limit := Nat.le_trans le_digitsValue le
    rw [absorb]
    simp only [if_pos first]
    exact ih le

theorem digit_byte : ∀ d < 10, (Decimal.digit d).toNat < 0x80 ∧
    isDigit (Decimal.digit d).toUInt8 = true ∧ digitValue (Decimal.digit d).toUInt8 = d ∧
    ((Decimal.digit d).toUInt8 = '0'.toUInt8 → d = 0) := by
  decide

theorem bytes_digit {d : Nat} (h : d < 10) :
    Utf8.bytes [Decimal.digit d] = [(Decimal.digit d).toUInt8] :=
  Utf8.bytes_cons_ascii (digit_byte d h).1

/-- Printed digits are digits, of the number that was printed. -/
theorem bytes_digits (n : Nat) : (∀ b ∈ Utf8.bytes (Decimal.digits n), isDigit b = true) ∧
    digitsValue 0 (Utf8.bytes (Decimal.digits n)) = n := by
  induction n using Nat.strongRecOn with
  | _ n ih =>
    rw [Decimal.digits]
    split
    · next small =>
      rw [bytes_digit small]
      obtain ⟨-, digit, value, -⟩ := digit_byte n small
      refine ⟨fun b hb => ?_, ?_⟩
      · rwa [List.mem_singleton.1 hb]
      · rw [digitsValue, List.foldl_cons, List.foldl_nil, value, Nat.mul_zero, Nat.zero_add]
    · next large =>
      have last : n % 10 < 10 := Nat.mod_lt _ (by decide)
      obtain ⟨digits, value⟩ := ih (n / 10) (by omega)
      obtain ⟨-, digit, value', -⟩ := digit_byte _ last
      rw [Utf8.bytes_append, bytes_digit last]
      refine ⟨fun b hb => ?_, ?_⟩
      · rcases List.mem_append.1 hb with hb | hb
        · exact digits b hb
        · rwa [List.mem_singleton.1 hb]
      · rw [digitsValue] at value
        rw [digitsValue, List.foldl_append, value, List.foldl_cons, List.foldl_nil, value']
        omega

/-- Only zero begins with a zero. -/
theorem digits_head (n : Nat) : ∃ b ds, Utf8.bytes (Decimal.digits n) = b :: ds ∧
    (b = '0'.toUInt8 → n = 0 ∧ ds = []) := by
  induction n using Nat.strongRecOn with
  | _ n ih =>
    rw [Decimal.digits]
    split
    · next small =>
      exact ⟨_, [], bytes_digit small, fun zero => ⟨(digit_byte n small).2.2.2 zero, rfl⟩⟩
    · next large =>
      obtain ⟨b, ds, is, zero⟩ := ih (n / 10) (by omega)
      refine ⟨b, _, by rw [Utf8.bytes_append, is, List.cons_append], fun leading => ?_⟩
      have := (zero leading).1
      omega

/-- What may come after the digits of an integer: no digit, fraction or exponent. -/
def EndsInteger (rest : List UInt8) : Prop :=
  ∀ b ∈ rest.head?, isDigit b = false ∧ b ≠ '.'.toUInt8 ∧ b ≠ 'e'.toUInt8 ∧ b ≠ 'E'.toUInt8

theorem Stops.endsInteger (stops : Stops rest) : EndsInteger rest := by
  intro b first
  rcases stops b first with rfl | rfl | rfl <;> decide

/-- Decimal digits, without a zero in front of others. -/
structure IsNumeral (ds : List UInt8) : Prop where
  ne_nil : ds ≠ []
  digits : ∀ d ∈ ds, isDigit d = true
  leading : ds.head? = some '0'.toUInt8 → ds = ['0'.toUInt8]

theorem isNumeral_digits (n : Nat) : IsNumeral (Utf8.bytes (Decimal.digits n)) := by
  obtain ⟨b, ds, is, zero⟩ := digits_head n
  refine ⟨by simp [is], (bytes_digits n).1, fun leading => ?_⟩
  rw [is] at leading ⊢
  cases leading
  rw [(zero rfl).2]

theorem takeWhile_digits (digits : ∀ b ∈ ds, isDigit b = true)
    (ends : ∀ b ∈ rest.head?, isDigit b = false) :
    (ds ++ rest).takeWhile isDigit = ds ∧ (ds ++ rest).dropWhile isDigit = rest := by
  rw [List.takeWhile_append_of_pos digits, List.dropWhile_append_of_pos digits]
  cases rest with
  | nil => exact ⟨List.append_nil ds, rfl⟩
  | cons b rest =>
    rw [List.takeWhile_cons_of_neg (by simp [ends b rfl]),
      List.dropWhile_cons_of_neg (by simp [ends b rfl])]
    exact ⟨List.append_nil ds, rfl⟩

/-- A numeral that nothing continues is an integer. -/
theorem number_numeral {negative : Bool} (numeral : IsNumeral ds) (ends : EndsInteger rest)
    (fits : digitsValue 0 ds ≤ significandLimit) :
    number negative (ds ++ rest) = integerNumber negative (digitsValue 0 ds) rest := by
  obtain ⟨ne_nil, digits, leading⟩ := numeral
  cases ds with
  | nil => exact absurd rfl ne_nil
  | cons b ds =>
    have first : isDigit b = true := digits b List.mem_cons_self
    have split : (if b = '0'.toUInt8 then [b] else (b :: (ds ++ rest)).takeWhile isDigit) =
          b :: ds ∧
        (if b = '0'.toUInt8 then ds ++ rest else (b :: (ds ++ rest)).dropWhile isDigit) = rest := by
      by_cases zero : b = '0'.toUInt8
      · rw [if_pos zero, if_pos zero]
        cases leading (by rw [zero]; rfl)
        exact ⟨rfl, rfl⟩
      · rw [if_neg zero, if_neg zero]
        exact takeWhile_digits digits fun b first => (ends b first).1
    rw [List.cons_append, number]
    simp only [first, if_true, split.1, split.2, absorb_digits fits]
    cases rest with
    | nil => rfl
    | cons c more =>
      obtain ⟨digit, point, small, capital⟩ := ends c rfl
      simp only [if_neg point, small, capital, or_self, digit, if_false, Bool.false_eq_true,
        List.isEmpty_nil, if_true]

/-- Digits that end where a value does are an integer. -/
theorem number_digits {negative : Bool} (fits : n ≤ significandLimit) (stops : Stops rest) :
    number negative (Utf8.bytes (Decimal.digits n) ++ rest) =
      integerNumber negative n rest := by
  have value := (bytes_digits n).2
  rw [number_numeral (isNumeral_digits n) stops.endsInteger (by rwa [value]), value]

/-! ### Strings -/

/-- A byte that stands for itself inside quotes. -/
def Plain (b : UInt8) : Prop := b ≠ '"'.toUInt8 ∧ b ≠ '\\'.toUInt8 ∧ ¬ b < 0x20

variable {seen : List UInt8} {c : Char} {steps m : Nat}

theorem stringBytes_plain (plain : ∀ b ∈ bs, Plain b) :
    stringBytes (bs.length + m) seen (bs ++ rest) = stringBytes m (bs.reverse ++ seen) rest := by
  induction bs generalizing seen with
  | nil => rw [List.length_nil, Nat.zero_add]; rfl
  | cons b bs ih =>
    obtain ⟨quote, backslash, control⟩ := plain b List.mem_cons_self
    rw [List.length_cons, Nat.add_right_comm, List.cons_append, stringBytes, if_neg quote,
      if_neg backslash, if_neg control, ih fun b hb => plain b (List.mem_cons_of_mem _ hb),
      List.reverse_cons, List.append_assoc]
    rfl

theorem hexValue?_small : ∀ d < 16, (Hexadecimal.small d).toNat < 0x80 ∧
    hexValue? (Hexadecimal.small d).toUInt8 = some d := by
  decide

theorem hexEscape_control (control : c.toNat < 0x20) :
    hexEscape (Utf8.bytes ['0', '0', Hexadecimal.small (c.toNat / 16),
      Hexadecimal.small (c.toNat % 16)] ++ rest) = .ok (c, rest) := by
  obtain ⟨ascii, high⟩ := hexValue?_small (c.toNat / 16) (by omega)
  obtain ⟨ascii', low⟩ := hexValue?_small (c.toNat % 16) (by omega)
  have code : hexCode (Utf8.bytes ['0', '0', Hexadecimal.small (c.toNat / 16),
      Hexadecimal.small (c.toNat % 16)] ++ rest) = .ok (c.toNat, rest) := by
    rw [Utf8.bytes_cons_ascii (by decide), Utf8.bytes_cons_ascii (by decide),
      Utf8.bytes_cons_ascii ascii, Utf8.bytes_cons_ascii ascii']
    simp only [Utf8.bytes_nil, List.cons_append, List.nil_append, hexCode, high, low]
    have zero : hexValue? '0'.toUInt8 = some 0 := by decide
    have sum : (((0 * 16 + 0) * 16 + c.toNat / 16) * 16 + c.toNat % 16) = c.toNat := by omega
    simp only [zero, sum]
  have unpaired : isLowSurrogate c.toNat = false ∧ isHighSurrogate c.toNat = false := by
    simp only [isLowSurrogate, isHighSurrogate, Bool.and_eq_false_iff, decide_eq_false_iff_not]
    omega
  rw [hexEscape, code]
  simp only [bind, Except.bind, unpaired.1, unpaired.2, Bool.false_eq_true, if_false,
    Char.ofNat_toNat]

/-- How a character stands inside quotes: as a letter or a code after a backslash, or as it is. -/
inductive Escaped (c : Char) : List Char → Prop
  | letter {x : Char} (ascii : c.toNat < 0x80 ∧ x.toNat < 0x80) (other : x.toUInt8 ≠ 'u'.toUInt8)
    (means : escapeLetter? x.toUInt8 = some c.toUInt8) : Escaped c ['\\', x]
  | code (control : c.toNat < 0x20) : Escaped c ['\\', 'u', '0', '0',
      Hexadecimal.small (c.toNat / 16), Hexadecimal.small (c.toNat % 16)]
  | plain (plain : ∀ b ∈ String.utf8EncodeChar c, Plain b) : Escaped c [c]

theorem plain_bytes (quote : c ≠ '"') (backslash : c ≠ '\\') (control : ¬ c.toNat < 0x20) :
    ∀ b ∈ String.utf8EncodeChar c, Plain b := by
  intro b hb
  by_cases ascii : c.toNat < 0x80
  · rw [Utf8.encodeChar_ascii ascii, List.mem_singleton] at hb
    subst hb
    have value := Utf8.toNat_toUInt8 ascii
    have other {x : Char} (hx : x.toUInt8.toNat = x.toNat) (ne : c ≠ x) : c.toUInt8 ≠ x.toUInt8 :=
      fun same => ne (Char.toNat_inj.1 (by rw [← value, same, hx]))
    refine ⟨other rfl quote, other rfl backslash, ?_⟩
    rw [UInt8.lt_iff_toNat_lt, value]
    exact control
  · have high := UInt8.le_iff_toNat_le.1 (Utf8.le_of_mem_encodeChar (Nat.not_lt.1 ascii) hb)
    refine ⟨?_, ?_, fun low => ?_⟩
    · rintro rfl
      exact absurd high (by decide)
    · rintro rfl
      exact absurd high (by decide)
    · exact absurd (Nat.lt_of_le_of_lt high (UInt8.lt_iff_toNat_lt.1 low)) (by decide)

theorem escaped (c : Char) : Escaped c (escape c) := by
  by_cases letter : c = '"' ∨ c = '\\' ∨ c = '\n' ∨ c = '\r' ∨ c = '\t' ∨ c = '\x08' ∨ c = '\x0c'
  · rcases letter with rfl | rfl | rfl | rfl | rfl | rfl | rfl
    all_goals exact .letter (by decide) (by decide) (by decide)
  simp only [not_or] at letter
  obtain ⟨quote, backslash, n, r, t, b, f⟩ := letter
  rw [escape, if_neg quote, if_neg backslash, if_neg n, if_neg r, if_neg t, if_neg b, if_neg f]
  split
  · next control => exact .code control
  · next control => exact .plain (plain_bytes quote backslash control)

theorem stringBytes_backslash {out : List UInt8} (is : escapeSequence bs = .ok (out, rest)) :
    stringBytes (steps + 1) seen ('\\'.toUInt8 :: bs) =
      stringBytes steps (out.reverse ++ seen) rest := by
  rw [stringBytes, if_neg (by decide), if_pos rfl, is]
  rfl

/-- An escaped character is read back as its bytes. -/
theorem stringBytes_escaped {cs : List Char} (seen rest : List UInt8) (e : Escaped c cs)
    (enough : (Utf8.bytes cs).length + m ≤ steps) :
    ∃ left, m ≤ left ∧ stringBytes steps seen (Utf8.bytes cs ++ rest) =
      stringBytes left ((String.utf8EncodeChar c).reverse ++ seen) rest := by
  cases e with
  | @letter x ascii other means =>
    rw [Utf8.bytes_cons_ascii (by decide), Utf8.bytes_cons_ascii ascii.2] at enough ⊢
    obtain ⟨left, rfl⟩ : ∃ left, steps = left + 1 := ⟨steps - 1, by simp at enough; omega⟩
    refine ⟨left, by simp at enough; omega, ?_⟩
    rw [Utf8.encodeChar_ascii ascii.1]
    have letter : escapeSequence (x.toUInt8 :: rest) = .ok ([c.toUInt8], rest) := by
      rw [escapeSequence, if_neg other, means]
    exact stringBytes_backslash letter
  | code control =>
    rw [Utf8.bytes_cons_ascii (by decide), Utf8.bytes_cons_ascii (by decide)] at enough ⊢
    obtain ⟨left, rfl⟩ : ∃ left, steps = left + 1 := ⟨steps - 1, by simp at enough; omega⟩
    refine ⟨left, by simp at enough; omega, ?_⟩
    rw [List.cons_append, List.cons_append]
    refine stringBytes_backslash ?_
    rw [escapeSequence, if_pos rfl, hexEscape_control control]
    rfl
  | plain plain =>
    obtain ⟨left, rfl⟩ := Nat.exists_eq_add_of_le enough
    rw [show Utf8.bytes [c] = String.utf8EncodeChar c from List.flatMap_singleton _ _,
      Nat.add_assoc]
    exact ⟨m + left, Nat.le_add_right m left, stringBytes_plain plain⟩

/-- The bytes of a quoted text are those of the text. -/
theorem stringBytes_quoted {cs : List Char}
    (enough : (Utf8.bytes (cs.flatMap escape)).length < steps) :
    stringBytes steps seen (Utf8.bytes (cs.flatMap escape) ++ '"'.toUInt8 :: rest) =
      .ok (seen.reverse ++ Utf8.bytes cs, rest) := by
  induction cs generalizing steps seen with
  | nil =>
    obtain ⟨left, rfl⟩ := Nat.exists_eq_add_of_lt enough
    rw [List.flatMap_nil, Utf8.bytes_nil, List.nil_append, List.append_nil, stringBytes, if_pos rfl]
  | cons c cs ih =>
    rw [List.flatMap_cons, Utf8.bytes_append] at enough ⊢
    rw [List.length_append, ← Nat.add_one_le_iff, Nat.add_assoc] at enough
    obtain ⟨left, enough, step⟩ := stringBytes_escaped seen
      (Utf8.bytes (cs.flatMap escape) ++ '"'.toUInt8 :: rest) (escaped c) enough
    rw [List.append_assoc, step, ih enough, List.reverse_append, List.reverse_reverse,
      List.append_assoc]
    rfl

/-- A quoted text is read back, whatever follows. -/
theorem string_quoted (s : String) :
    string (Utf8.bytes (s.toList.flatMap escape ++ ['"']) ++ rest) = .ok (s, rest) := by
  have closing : Utf8.bytes (s.toList.flatMap escape ++ ['"']) ++ rest =
      Utf8.bytes (s.toList.flatMap escape) ++ '"'.toUInt8 :: rest := by
    rw [Utf8.bytes_append, List.append_assoc]
    rfl
  rw [string, closing, stringBytes_quoted (by simp)]
  simp only [bind, Except.bind, List.reverse_nil, List.nil_append, ← Utf8.encode_eq,
    Utf8.decode?_encode]

end Read

end GattRpc.Json
