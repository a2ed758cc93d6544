import GattRpc.Proofs.Json.Fields
import GattRpc.Proofs.Json.RoundTrip

/-! # Which texts are integers

A number is read as an integer just when it is spelled as one: decimal digits, after a minus if it is
negative, that no fraction and no exponent follows (`value_integer_iff`). All other numbers are read
as floats, also those that are whole, and so is a negative zero. -/

namespace GattRpc.Json.Read

variable {negative : Bool} {b : UInt8} {bs ds rest : List UInt8} {limit n s d : Nat} {i e : Int}

/-! ### Readings of floats -/

/-- No integer is read. -/
def IsFloat (r : Except Fault (Number × List UInt8)) : Prop :=
  ∀ i fits rest, r ≠ .ok (.integer i fits, rest)

theorem isFloat_error (f : Fault) : IsFloat (.error f) := by
  intro i fits rest h
  cases h

theorem isFloat_ite {c : Prop} [Decidable c] {x y : Except Fault (Number × List UInt8)}
    (hx : IsFloat x) (hy : IsFloat y) : IsFloat (if c then x else y) := by
  split
  · exact hx
  · exact hy

theorem isFloat_floatNumber : IsFloat (floatNumber negative s e rest) := by
  unfold floatNumber
  split
  · exact isFloat_error _
  · split
    · intro i fits rest h
      cases h
    · exact isFloat_error _

theorem isFloat_exponentPart : IsFloat (exponentPart negative s e bs) := by
  unfold exponentPart
  dsimp only
  split
  · exact isFloat_error _
  · refine isFloat_ite (isFloat_ite isFloat_floatNumber ?_) (isFloat_error _)
    exact isFloat_ite (isFloat_error _) isFloat_floatNumber

theorem isFloat_afterDigits : IsFloat (afterDigits negative s e bs) := by
  unfold afterDigits
  split
  · exact isFloat_floatNumber
  · exact isFloat_ite isFloat_exponentPart isFloat_floatNumber

theorem isFloat_fractionPart : IsFloat (fractionPart negative s e bs) := by
  unfold fractionPart
  split
  · exact isFloat_error _
  · exact isFloat_ite isFloat_afterDigits (isFloat_error _)

/-! ### Numerals -/

theorem absorb_eq (all : (absorb limit n ds).2 = []) :
    (absorb limit n ds).1 = digitsValue n ds := by
  induction ds generalizing n with
  | nil => rfl
  | cons b ds ih =>
    rw [absorb] at all ⊢
    split at all
    next within =>
      rw [if_pos within]
      exact ih all
    next => cases all

/-- The digits at the start of a text. -/
theorem isNumeral_start (bs : List UInt8) (first : isDigit b = true) :
    IsNumeral (if b = '0'.toUInt8 then [b] else (b :: bs).takeWhile isDigit) := by
  split
  next zero =>
    refine ⟨List.cons_ne_nil _ _, fun d hd => ?_, fun _ => by rw [zero]⟩
    rwa [List.mem_singleton.1 hd]
  next other =>
    rw [List.takeWhile_cons_of_pos first]
    refine ⟨List.cons_ne_nil _ _, fun d hd => ?_, fun leading => ?_⟩
    · rcases List.mem_cons.1 hd with rfl | hd
      · exact first
      · exact List.all_eq_true.1 (List.all_takeWhile ..) d hd
    · cases leading
      exact absurd rfl other

theorem append_start (b : UInt8) (bs : List UInt8) :
    (if b = '0'.toUInt8 then [b] else (b :: bs).takeWhile isDigit) ++
    (if b = '0'.toUInt8 then bs else (b :: bs).dropWhile isDigit) = b :: bs := by
  split
  · rfl
  · exact List.takeWhile_append_dropWhile

/-- An integer without a fraction or an exponent is as large as its digits say, and no integer is
read from a negative zero. -/
theorem integerNumber_eq_ok {fits} :
    integerNumber negative n bs = .ok (.integer i fits, rest) ↔
      bs = rest ∧ if negative then 0 < n ∧ i = -n else i = n := by
  unfold integerNumber
  cases negative with
  | true =>
    simp only [if_true]
    split
    next small =>
      simp only [Except.ok.injEq, Prod.mk.injEq, Number.integer.injEq]
      exact ⟨fun ⟨is, same⟩ => ⟨same, small.1, is.symm⟩, fun ⟨same, _, is⟩ => ⟨is.symm, same⟩⟩
    next large =>
      refine iff_of_false (isFloat_floatNumber _ _ _) fun ⟨_, positive, is⟩ => large ⟨positive, ?_⟩
      omega
  | false =>
    simp only [Bool.false_eq_true, if_false]
    split
    next small =>
      simp only [Except.ok.injEq, Prod.mk.injEq, Number.integer.injEq]
      exact ⟨fun ⟨is, same⟩ => ⟨same, is.symm⟩, fun ⟨same, is⟩ => ⟨is.symm, same⟩⟩
    next large =>
      refine iff_of_false (isFloat_floatNumber _ _ _) fun ⟨_, is⟩ => large ?_
      omega

/-- An integer comes from a numeral that nothing continues. -/
theorem number_integer {fits} (h : number negative bs = .ok (.integer i fits, rest)) :
    ∃ ds, IsNumeral ds ∧ bs = ds ++ rest ∧ EndsInteger rest ∧
      integerNumber negative (digitsValue 0 ds) rest = .ok (.integer i fits, rest) := by
  unfold number at h
  split at h
  next => cases h
  next b more =>
    split at h
    next first =>
      have numeral := isNumeral_start more first
      have whole := append_start b more
      dsimp only at h
      generalize (if b = '0'.toUInt8 then [b] else (b :: more).takeWhile isDigit) = ds at *
      generalize (if b = '0'.toUInt8 then more else (b :: more).dropWhile isDigit) = after at *
      -- Whatever follows the digits, they have all been absorbed and nothing else was read.
      have plain {x} (x_float : IsFloat x) (h : (if (absorb significandLimit 0 ds).2.isEmpty then
          integerNumber negative (absorb significandLimit 0 ds).1 after else x) =
            .ok (.integer i fits, rest)) : after = rest ∧
          integerNumber negative (digitsValue 0 ds) rest = .ok (.integer i fits, rest) := by
        split at h
        next all =>
          rw [absorb_eq (List.isEmpty_iff.1 all)] at h
          obtain rfl := (integerNumber_eq_ok.1 h).1
          exact ⟨rfl, h⟩
        next => exact absurd h (x_float _ _ _)
      cases after with
      | nil =>
        obtain ⟨rfl, is⟩ := plain isFloat_floatNumber h
        refine ⟨ds, numeral, whole.symm, ?_, is⟩
        rintro _ ⟨⟩
      | cons c tail =>
        dsimp only at h
        split at h
        next => exact absurd h (isFloat_fractionPart _ _ _)
        next point =>
          split at h
          next => exact absurd h (isFloat_exponentPart _ _ _)
          next letter =>
            split at h
            next => cases h
            next digit =>
              obtain ⟨rfl, is⟩ := plain isFloat_floatNumber h
              refine ⟨ds, numeral, whole.symm, ?_, is⟩
              rintro _ ⟨⟩
              exact ⟨by simpa using digit, point, fun e => letter (.inl e),
                fun e => letter (.inr e)⟩
    next => cases h

/-- An integer is read from a numeral that nothing continues, and only from one. -/
theorem number_integer_iff {fits} : number negative bs = .ok (.integer i fits, rest) ↔
    ∃ ds, IsNumeral ds ∧ bs = ds ++ rest ∧ EndsInteger rest ∧
      if negative then 0 < digitsValue 0 ds ∧ i = -digitsValue 0 ds else i = digitsValue 0 ds := by
  constructor
  · intro h
    obtain ⟨ds, numeral, is, ends, value⟩ := number_integer h
    exact ⟨ds, numeral, is, ends, (integerNumber_eq_ok.1 value).2⟩
  · rintro ⟨ds, numeral, rfl, ends, value⟩
    have small : digitsValue 0 ds ≤ significandLimit := by
      rw [significandLimit]
      split at value <;> omega
    rw [number_numeral numeral ends small, integerNumber_eq_ok]
    exact ⟨rfl, value⟩

/-! ### Values -/

theorem value_congr {cs : List UInt8} (same : skipBlanks bs = skipBlanks cs) :
    value d bs = value d cs := by
  rw [value, value, same]

/-- A number begins with a minus or a digit. -/
theorem number_of_value {x : Number} (h : value d bs = .ok (.number x, rest)) :
    (∃ more, skipBlanks bs = '-'.toUInt8 :: more ∧ number true more = .ok (x, rest)) ∨
      ∃ b more, skipBlanks bs = b :: more ∧ isDigit b = true ∧
        number false (b :: more) = .ok (x, rest) := by
  rw [value] at h
  split at h
  next => cases h
  next b more is =>
    split at h
    next => simp [bind_eq_ok] at h
    split at h
    next => simp [bind_eq_ok] at h
    split at h
    next => simp [bind_eq_ok] at h
    split at h
    next minus =>
      obtain ⟨⟨y, left⟩, reads, same⟩ := bind_eq_ok.1 h
      cases same
      exact .inl ⟨more, minus ▸ is, reads⟩
    split at h
    next digit =>
      obtain ⟨⟨y, left⟩, reads, same⟩ := bind_eq_ok.1 h
      cases same
      exact .inr ⟨b, more, is, digit, reads⟩
    split at h
    next => simp [bind_eq_ok] at h
    split at h
    next =>
      cases d with
      | zero => cases h
      | succ d => simp [bind_eq_ok] at h
    split at h
    next =>
      cases d with
      | zero => cases h
      | succ d => simp [bind_eq_ok] at h
    next => cases h

/-- How an integer is spelled: its digits, after a minus if it is negative. -/
inductive Spells (i : Int) : List UInt8 → Prop
  | natural {ds : List UInt8} (numeral : IsNumeral ds) (value : i = digitsValue 0 ds) : Spells i ds
  | negative {ds : List UInt8} (numeral : IsNumeral ds) (positive : 0 < digitsValue 0 ds)
      (value : i = -digitsValue 0 ds) : Spells i ('-'.toUInt8 :: ds)

theorem IsNumeral.exists_cons (numeral : IsNumeral ds) :
    ∃ b more, ds = b :: more ∧ isDigit b = true := by
  obtain ⟨b, more, rfl⟩ := List.exists_cons_of_ne_nil numeral.ne_nil
  exact ⟨b, more, rfl, numeral.digits b List.mem_cons_self⟩

/-- An integer is read just where one is spelled. -/
theorem value_integer_iff {fits} : value d bs = .ok (.number (.integer i fits), rest) ↔
    ∃ spelled, Spells i spelled ∧ skipBlanks bs = spelled ++ rest ∧ EndsInteger rest := by
  constructor
  · intro h
    rcases number_of_value h with ⟨more, is, reads⟩ | ⟨b, more, is, -, reads⟩
    · obtain ⟨ds, numeral, rfl, ends, positive, value⟩ := number_integer_iff.1 reads
      exact ⟨_, .negative numeral positive value, is, ends⟩
    · obtain ⟨ds, numeral, whole, ends, value⟩ := number_integer_iff.1 reads
      exact ⟨ds, .natural numeral value, is.trans whole, ends⟩
  · rintro ⟨spelled, spells, is, ends⟩
    cases spells with
    | natural numeral value =>
      have reads : number false (spelled ++ rest) = .ok (.integer i fits, rest) :=
        number_integer_iff.2 ⟨spelled, numeral, rfl, ends, value⟩
      obtain ⟨b, more, rfl, digit⟩ := numeral.exists_cons
      rw [List.cons_append] at is reads
      rw [value_congr (is.trans (Starts.of_isDigit digit).skipBlanks.symm), value_digit digit,
        reads]
      rfl
    | negative numeral positive value =>
      have reads : number true (_ ++ rest) = .ok (.integer i fits, rest) :=
        number_integer_iff.2 ⟨_, numeral, rfl, ends, positive, value⟩
      rw [List.cons_append] at is
      have starts : Starts '-'.toUInt8 := by decide
      rw [value_congr (is.trans starts.skipBlanks.symm), value_minus, reads]
      rfl

end GattRpc.Json.Read
