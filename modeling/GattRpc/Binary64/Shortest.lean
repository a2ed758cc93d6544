import GattRpc.Binary64.Basic
import GattRpc.Text.Decimal

/-! # Shortest decimal text of a binary64 number

The real numbers that round to a number form an interval around it, ends included when its
significand is even. Its text has the fewest digits that lie in that interval, and of two such
decimals the nearer one. How the digits are laid out is a `Layout`. -/

namespace GattRpc.Binary64

/-- A decimal `coefficient * 10 ^ exponent`. -/
structure Scientific where
  coefficient : Nat
  exponent : Int
deriving DecidableEq, Repr

/-- Which of two equally near decimals is taken. -/
inductive Tie
  | even
  | up
deriving DecidableEq, Repr

/-- A non-negative rational number, as a numerator and a positive denominator. -/
structure Quotient where
  num : Nat
  den : Nat

namespace Quotient

def lt (a b : Quotient) : Bool := a.num * b.den < b.num * a.den

def le (a b : Quotient) : Bool := a.num * b.den ≤ b.num * a.den

/-- `n * 10 ^ k`. -/
def ofDecimal (n : Nat) (k : Int) : Quotient :=
  ⟨n * Nat.pow 10 k.toNat, Nat.pow 10 (-k).toNat⟩

/-- `n * 2 ^ k`. -/
def ofBinary (n : Nat) (k : Int) : Quotient :=
  ⟨n * Nat.pow 2 k.toNat, Nat.pow 2 (-k).toNat⟩

/-- Twice the distance of two numbers, over the product of their denominators. -/
def gap (a b : Quotient) : Nat := (a.num * b.den - b.num * a.den) + (b.num * a.den - a.num * b.den)

end Quotient

/-- The reals that round to a positive finite number. -/
structure Basin where
  low : Quotient
  high : Quotient
  closed : Bool

namespace Basin

/-- Halfway to the next number below and to the next one above. Below a power of two the numbers
lie twice as dense. -/
def of (x : Binary64) : Basin :=
  let m := x.significand
  let q := x.scale
  let low :=
    if x.fraction.val = 0 ∧ 1 < x.exponent.val then Quotient.ofBinary (4 * m - 1) (q - 2)
    else Quotient.ofBinary (2 * m - 1) (q - 1)
  ⟨low, Quotient.ofBinary (2 * m + 1) (q - 1), m % 2 = 0⟩

def contains (b : Basin) (v : Quotient) : Bool :=
  if b.closed then b.low.le v && v.le b.high else b.low.lt v && v.lt b.high

end Basin

/-- The least `k` with `v < 10 ^ k`, searched for from a guess that is not above it. -/
def decimalWidth (v : Quotient) : Nat → Int → Int
  | 0, k => k
  | fuel + 1, k => if v.lt (Quotient.ofDecimal 1 k) then k else decimalWidth v fuel (k + 1)

/-- The decimal with unit `10 ^ e` that stands for `v`: one of its two neighbours in the basin. -/
def onGrid? (tie : Tie) (basin : Basin) (v : Quotient) (e : Int) : Option Nat :=
  let step := Quotient.ofDecimal 1 e
  let below := v.num * step.den / (v.den * step.num)
  let a := Quotient.ofDecimal below e
  let b := Quotient.ofDecimal (below + 1) e
  match basin.contains a, basin.contains b with
  | false, false => none
  | true, false => some below
  | false, true => some (below + 1)
  | true, true =>
    if v.gap a * b.den < v.gap b * a.den then some below
    else if v.gap b * a.den < v.gap a * b.den then some (below + 1)
    else match tie with
      | .up => some (below + 1)
      | .even => if below % 2 = 0 then some below else some (below + 1)

/-- The first grid, from one digit on, that has a decimal in the basin. -/
def search (tie : Tie) (basin : Basin) (v : Quotient) (width : Int) : Nat → Nat → Scientific
  | 0, n => ⟨v.num / v.den, width - n⟩
  | fuel + 1, n =>
    match onGrid? tie basin v (width - n) with
    | some d => ⟨d, width - n⟩
    | none => search tie basin v width fuel (n + 1)

/-- The shortest decimal that reads back as the positive finite `x`. -/
def shortest (tie : Tie) (x : Binary64) : Scientific :=
  let v := Quotient.ofBinary x.significand x.scale
  let guess : Int := (x.significand.log2 + x.scale) * 3 / 10 - 2
  search tie (.of x) v (decimalWidth v 40 guess) 17 1

/-- How a number is laid out once its digits are known: the powers of ten of the leading digit
that are written positionally, and how an equally near digit is chosen. -/
structure Layout where
  positional : Int → Bool
  tie : Tie

/-- A positional decimal: `ds` with the point after the first `point` digits, zeros filling gaps. -/
def positionalText (ds : List Char) (point : Int) : List Char :=
  if point ≤ 0 then '0' :: '.' :: (List.replicate (-point).toNat '0' ++ ds)
  else
    let n := point.toNat
    if ds.length ≤ n then ds ++ List.replicate (n - ds.length) '0' ++ ['.', '0']
    else ds.take n ++ '.' :: ds.drop n

/-- A decimal with one digit before the point and a signed exponent. -/
def exponentText (ds : List Char) (e : Int) : List Char :=
  let mantissa := match ds with
    | [] => []
    | [d] => [d]
    | d :: more => d :: '.' :: more
  mantissa ++ 'e' :: (if e < 0 then Decimal.signed e else '+' :: Decimal.signed e)

/-- A list without the zeros at its end. -/
def dropTrailingZeros (ds : List Char) : List Char :=
  (ds.reverse.dropWhile (· = '0')).reverse

/-- The text of a number; one that is not finite is named. -/
def text (layout : Layout) (x : Binary64) : List Char :=
  let unsigned :=
    if x.isNaN then "NaN".toList
    else if !x.isFinite then "inf".toList
    else if x.isZero then "0.0".toList
    else
      let s := x.shortest layout.tie
      let all := Decimal.digits s.coefficient
      let point : Int := all.length + s.exponent
      let ds := dropTrailingZeros all
      if layout.positional (point - 1) then positionalText ds point else exponentText ds (point - 1)
  if x.negative && !x.isNaN then '-' :: unsigned else unsigned

end GattRpc.Binary64
