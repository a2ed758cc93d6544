import GattRpc.Toml.Scanner

/-! # Reading decimal integers

The digits of a number at the end of a line are read as that number. A date, a time and a float
start with digits too, so a reader tries them first; they all want another character after the
digits than the end of the line. -/

namespace GattRpc.Toml.Read

variable {c : Char} {ds more rest : List Char} {n size low high : Nat}

/-! ### Digits -/

theorem digit_char : ∀ d < 10, isDigit (Decimal.digit d) = true ∧
    Hexadecimal.value? (Decimal.digit d) = some d ∧ (Decimal.digit d = '0' → d = 0) := by
  decide

theorem isDigit_digits (n : Nat) : ∀ c ∈ Decimal.digits n, isDigit c = true := by
  induction n using Nat.strongRecOn with
  | _ n ih =>
    intro c hc
    rw [Decimal.digits] at hc
    split at hc
    · next small =>
      rw [List.mem_singleton.1 hc]
      exact (digit_char n small).1
    · next large =>
      rcases List.mem_append.1 hc with hc | hc
      · exact ih (n / 10) (by omega) c hc
      · rw [List.mem_singleton.1 hc]
        exact (digit_char (n % 10) (by omega)).1

/-- The digits of a number spell it. -/
theorem ofDigits_digits (n : Nat) : ofDigits 10 (Decimal.digits n) = n := by
  induction n using Nat.strongRecOn with
  | _ n ih =>
    rw [Decimal.digits]
    split
    · next small => simp [ofDigits, (digit_char n small).2.1]
    · next large =>
      have front : ofDigits 10 (Decimal.digits (n / 10)) = n / 10 := ih (n / 10) (by omega)
      have last := (digit_char (n % 10) (by omega)).2.1
      rw [ofDigits] at front ⊢
      rw [List.foldl_append, front, List.foldl_cons, List.foldl_nil, last, Option.getD_some]
      omega

/-- Only zero begins with a zero. -/
theorem digits_cons (n : Nat) :
    ∃ c ds, Decimal.digits n = c :: ds ∧ (c = '0' → n = 0 ∧ ds = []) := by
  induction n using Nat.strongRecOn with
  | _ n ih =>
    rw [Decimal.digits]
    split
    · next small => exact ⟨_, [], rfl, fun zero => ⟨(digit_char n small).2.2 zero, rfl⟩⟩
    · next large =>
      obtain ⟨c, ds, is, zero⟩ := ih (n / 10) (by omega)
      refine ⟨c, _, by rw [is, List.cons_append], fun leading => ?_⟩
      have := (zero leading).1
      omega

/-- What is no digit is no character of a number. -/
theorem ne_of_isDigit {x : Char} (digit : isDigit c = true) (other : isDigit x = false) :
    c ≠ x := by
  rintro rfl
  exact absurd digit (by simp [other])

theorem moreDigits_line (digits : ∀ c ∈ ds, isDigit c = true) :
    moreDigits isDigit (ds ++ '\n' :: more) = some (ds, '\n' :: more) := by
  induction ds with
  | nil => rfl
  | cons c ds ih =>
    have digit : isDigit c = true := digits c List.mem_cons_self
    have plain : c ≠ '_' := ne_of_isDigit digit (by decide)
    rw [List.cons_append, moreDigits, if_pos digit,
      ih fun c hc => digits c (List.mem_cons_of_mem _ hc)]
    · rfl
    · exact fun _ _ is => absurd is plain
    · exact fun is => absurd is plain

theorem decimalDigits_line (n : Nat) :
    decimalDigits (Decimal.digits n ++ '\n' :: more) = some (Decimal.digits n, '\n' :: more) := by
  obtain ⟨c, ds, is, zero⟩ := digits_cons n
  have digits := isDigit_digits n
  rw [is] at digits ⊢
  by_cases leading : c = '0'
  · rw [(zero leading).2, leading]
    rfl
  · have read : moreDigits isDigit (ds ++ '\n' :: more) = some (ds, '\n' :: more) :=
      moreDigits_line fun c hc => digits c (List.mem_cons_of_mem _ hc)
    rw [List.cons_append, decimalDigits, Read.digits, if_pos (digits c List.mem_cons_self), read]
    · rfl
    · exact fun _ is => leading (List.cons.inj is).1

/-! ### Dates, times and floats -/

/-- A number of so many digits does not go on behind the end of the line. -/
theorem fixed_line {v : Nat} (h : fixed size low high (ds ++ '\n' :: more) = some (v, rest)) :
    rest = ds.drop size ++ '\n' :: more := by
  have taken : ((ds ++ '\n' :: more).take size).all isDigit = true ∧
      (ds ++ '\n' :: more).drop size = rest := by
    simp only [fixed] at h
    split at h
    · simp at h
    · next enough =>
      split at h
      · simp only [not_or, Bool.not_eq_true, Bool.not_eq_false'] at enough
        simp only [Option.some.injEq, Prod.mk.injEq] at h
        exact ⟨enough.2, h.2⟩
      · simp at h
  obtain ⟨all, rfl⟩ := taken
  have long : size ≤ ds.length := by
    refine Nat.not_lt.1 fun short => ?_
    have line : '\n' ∈ (ds ++ '\n' :: more).take size := by
      obtain ⟨k, rfl⟩ := Nat.exists_eq_add_of_lt short
      rw [Nat.add_assoc, List.take_length_add_append]
      simp
    exact absurd (List.all_eq_true.1 all _ line) (by decide)
  exact List.drop_append_of_le_length long

/-- After digits comes another digit or the end of the line. -/
theorem char_line (digits : ∀ c ∈ ds, isDigit c = true) (digit : isDigit c = false)
    (line : c ≠ '\n') : char c (ds ++ '\n' :: more) = none := by
  cases ds with
  | nil => rw [List.nil_append, char, if_neg (Ne.symm line)]
  | cons d ds =>
    rw [List.cons_append, char, if_neg (ne_of_isDigit (digits d List.mem_cons_self) digit)]

theorem date_line (digits : ∀ c ∈ ds, isDigit c = true) : date (ds ++ '\n' :: more) = none := by
  rw [date]
  cases year : fixed 4 0 9999 (ds ++ '\n' :: more) with
  | none => rfl
  | some found =>
    obtain ⟨year', rest⟩ := found
    have dash : char '-' rest = none := by
      rw [fixed_line year]
      exact char_line (fun c hc => digits c (List.mem_of_mem_drop hc)) (by decide) (by decide)
    simp [dash]

theorem time_line (digits : ∀ c ∈ ds, isDigit c = true) : time (ds ++ '\n' :: more) = none := by
  rw [time]
  cases hour : fixed 2 0 23 (ds ++ '\n' :: more) with
  | none => rfl
  | some found =>
    obtain ⟨hour', rest⟩ := found
    have colon : char ':' rest = none := by
      rw [fixed_line hour]
      exact char_line (fun c hc => digits c (List.mem_of_mem_drop hc)) (by decide) (by decide)
    simp [colon]

theorem dateTime_line (digits : ∀ c ∈ ds, isDigit c = true) :
    dateTime (ds ++ '\n' :: more) = none := by
  rw [dateTime, date_line digits, time_line digits]
  rfl

theorem sign_digit (digit : isDigit c = true) : sign (c :: rest) = (false, c :: rest) := by
  unfold sign
  split
  · next is => exact absurd (List.cons.inj is).1 (ne_of_isDigit digit (by decide))
  · next is => exact absurd (List.cons.inj is).1 (ne_of_isDigit digit (by decide))
  · rfl

theorem specialFloat_digit (digit : isDigit c = true) : specialFloat (c :: rest) = none := by
  unfold specialFloat
  split
  · next is => exact absurd (List.cons.inj is).1 (ne_of_isDigit digit (by decide))
  · next is => exact absurd (List.cons.inj is).1 (ne_of_isDigit digit (by decide))
  · rfl

/-- Without a fraction and an exponent there is no float. -/
theorem float_line (n : Nat) : float (Decimal.digits n ++ '\n' :: more) = none := by
  have whole : decimalFloat false (Decimal.digits n ++ '\n' :: more) = none := by
    rw [decimalFloat, decimalDigits_line]
    rfl
  obtain ⟨c, ds, is, -⟩ := digits_cons n
  have digit : isDigit c = true := isDigit_digits n c (by simp [is])
  rw [is] at whole ⊢
  rw [List.cons_append] at whole ⊢
  simp [float, sign_digit digit, whole, specialFloat_digit digit]

/-! ### Integers -/

theorem integerValue_false (fits : n < 0x8000000000000000) :
    integerValue false n = some (.integer n) := by
  rw [integerValue]
  simp only [Bool.false_eq_true, if_false]
  refine if_pos ⟨?_, ?_⟩
  · omega
  · omega

theorem integer_line (n : Nat) (fits : n < 0x8000000000000000) :
    integer (Decimal.digits n ++ '\n' :: more) = some (.integer n, '\n' :: more) := by
  have whole : decimalDigits (Decimal.digits n ++ '\n' :: more) =
      some (Decimal.digits n, '\n' :: more) := decimalDigits_line n
  have value : integerValue false (ofDigits 10 (Decimal.digits n)) = some (.integer n) := by
    rw [ofDigits_digits, integerValue_false fits]
  obtain ⟨c, ds, is, zero⟩ := digits_cons n
  have digit : isDigit c = true := isDigit_digits n c (by simp [is])
  -- After a zero comes the end of the line, so no other base is meant.
  have plain {x : Char} (letter : x ≠ '\n') {rest : List Char} :
      Decimal.digits n ++ '\n' :: more ≠ '0' :: x :: rest := by
    rw [is]
    rintro same
    obtain ⟨leading, same⟩ := List.cons.inj same
    rw [(zero leading).2] at same
    exact letter (List.cons.inj same).1.symm
  rw [integer.eq_4 _ (fun _ => plain (by decide)) (fun _ => plain (by decide))
    (fun _ => plain (by decide))]
  have unsigned : sign (Decimal.digits n ++ '\n' :: more) =
      (false, Decimal.digits n ++ '\n' :: more) := by
    rw [is]
    exact sign_digit digit
  rw [unsigned]
  refine Option.bind_eq_some_iff.2 ⟨_, whole, ?_⟩
  exact Option.bind_eq_some_iff.2 ⟨_, value, rfl⟩

/-- The digits of a number that fits are read back, at the end of a line. -/
theorem scalar_digits (fits : n < 0x8000000000000000) :
    scalar (Decimal.digits n ++ '\n' :: more) = some (.integer n, '\n' :: more) := by
  have date : dateTime (Decimal.digits n ++ '\n' :: more) = none :=
    dateTime_line (isDigit_digits n)
  have float : float (Decimal.digits n ++ '\n' :: more) = none := float_line n
  have integer : integer (Decimal.digits n ++ '\n' :: more) = some (.integer n, '\n' :: more) :=
    integer_line n fits
  obtain ⟨c, ds, is, -⟩ := digits_cons n
  have digit : isDigit c = true := isDigit_digits n c (by simp [is])
  have other {x : Char} (h : isDigit x = false) : c ≠ x := ne_of_isDigit digit h
  rw [is, List.cons_append] at date float integer ⊢
  have quotes : ¬ (c = '"' ∨ c = '\'') := by
    rintro (rfl | rfl)
    · exact absurd digit (by decide)
    · exact absurd digit (by decide)
  have specials : ¬ (c = 'i' ∨ c = 'n') := by
    rintro (rfl | rfl)
    · exact absurd digit (by decide)
    · exact absurd digit (by decide)
  rw [scalar, if_neg quotes, if_neg (other (by decide)), if_neg (other (by decide)),
    if_neg specials, if_pos (.inr (.inr digit)), date, float, integer]
  rfl

end GattRpc.Toml.Read
