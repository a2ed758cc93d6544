/-! # Binary64 numbers

A floating-point number is a sign, an exponent field and a fraction. A finite one stands for
`significand * 2 ^ scale`; all arithmetic is exact in `Nat` and rounds once, to the nearest
number, a tie going to the even significand. -/

namespace GattRpc

/-- A number in the IEEE 754 binary64 format, field by field. -/
structure Binary64 where
  negative : Bool
  exponent : Fin 2048
  fraction : Fin 0x10000000000000
deriving DecidableEq, Repr

namespace Binary64

def zero : Binary64 := ⟨false, 0, 0⟩

def infinity : Binary64 := ⟨false, 2047, 0⟩

def nan : Binary64 := ⟨false, 2047, 0x8000000000000⟩

def neg (x : Binary64) : Binary64 := { x with negative := !x.negative }

def isFinite (x : Binary64) : Bool := x.exponent.val < 2047

def isNaN (x : Binary64) : Bool := x.exponent.val == 2047 && x.fraction.val != 0

def isZero (x : Binary64) : Bool := x.exponent.val == 0 && x.fraction.val == 0

@[simp] theorem isFinite_neg (x : Binary64) : x.neg.isFinite = x.isFinite := rfl

/-- The leading bit of a significand, which the fraction leaves out: `2 ^ 52`. -/
def hiddenBit : Nat := 0x10000000000000

/-- The integer significand of a finite number. -/
def significand (x : Binary64) : Nat :=
  if x.exponent.val = 0 then x.fraction else hiddenBit + x.fraction

/-- The power of two that scales the significand. -/
def scale (x : Binary64) : Int :=
  max x.exponent.val 1 - 1075

/-- The quotient of two naturals, rounded to the nearest integer, a tie to the even one. -/
def roundQuotient (num den : Nat) : Nat :=
  let q := num / den
  let twice := 2 * (num % den)
  if twice < den ∨ (twice = den ∧ q % 2 = 0) then q else q + 1

/-- `n * 2 ^ k`, as a quotient of naturals. -/
def scaled (n : Nat) (k : Int) : Nat × Nat :=
  (n * Nat.pow 2 k.toNat, Nat.pow 2 (-k).toNat)

/-- The number `m * 2 ^ q` with `m ≤ 2 ^ 53`, where `q` is as small as the format allows for that
`m`. Too large a number is infinite. -/
def assemble (m : Nat) (q : Int) : Binary64 :=
  if m < hiddenBit then ⟨false, 0, Fin.ofNat _ m⟩
  else
    let (m, q) := if m < 2 * hiddenBit then (m, q) else (m / 2, q + 1)
    let e := (q + 1075).toNat
    if e < 2047 then ⟨false, Fin.ofNat _ e, Fin.ofNat _ (m - hiddenBit)⟩ else infinity

/-- The largest `k` with `2 ^ k ≤ num / den`, for positive naturals. -/
def log2Quotient (num den : Nat) : Int :=
  let k : Int := (num.log2 : Int) - den.log2
  let (p, r) := scaled den k
  if p ≤ num * r then k else k - 1

/-- The number nearest to `num / den`. -/
def ofQuotient (num den : Nat) : Binary64 :=
  if num = 0 then zero
  else
    let q := max (log2Quotient num den - 52) (-1074)
    let (p, r) := scaled den q
    assemble (roundQuotient (num * r) p) q

def ofNat (n : Nat) : Binary64 := ofQuotient n 1

/-- The nearest number to `10 ^ k`. -/
def powerOfTen (k : Nat) : Binary64 := ofNat (Nat.pow 10 k)

/-- The rounded product of two finite, non-negative numbers. -/
def mul (x y : Binary64) : Binary64 :=
  let (p, r) := scaled (x.significand * y.significand) (x.scale + y.scale)
  ofQuotient p r

/-- The rounded quotient of two finite, non-negative numbers, the second one positive. -/
def div (x y : Binary64) : Binary64 :=
  let (p, r) := scaled x.significand (x.scale - y.scale)
  ofQuotient p (r * y.significand)

end Binary64

end GattRpc
