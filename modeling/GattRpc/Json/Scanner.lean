import GattRpc.Json.Fault
import GattRpc.Text.Hexadecimal

/-! # Scanning JSON text

A reader takes the bytes that are left and gives a value and the bytes after it. Here are the
readers of blanks, fixed words, numbers and strings, and the loops through the items of a list and
the members of an object, whatever is done with each. -/

namespace GattRpc.Json.Read

abbrev Reader (α : Type) := List UInt8 → Except Fault (α × List UInt8)

def isBlank (b : UInt8) : Bool :=
  b = ' '.toUInt8 || b = '\n'.toUInt8 || b = '\t'.toUInt8 || b = '\r'.toUInt8

def skipBlanks (bs : List UInt8) : List UInt8 := bs.dropWhile isBlank

def isDigit (b : UInt8) : Bool := '0'.toUInt8 ≤ b && b ≤ '9'.toUInt8

def digitValue (b : UInt8) : Nat := b.toNat - '0'.toNat

/-- Passes over a word, byte by byte. -/
def word : List UInt8 → Reader Unit
  | [], bs => .ok ((), bs)
  | _ :: _, [] => .error (.ended .value)
  | w :: ws, b :: bs => if b = w then word ws bs else .error (.atLast .expectedIdent bs)

/-! ## Numbers -/

/-- Appends digits to `n` while the result is at most `limit`, and gives the digits left over. -/
def absorb (limit : Nat) : Nat → List UInt8 → Nat × List UInt8
  | n, [] => (n, [])
  | n, d :: ds =>
    let m := 10 * n + digitValue d
    if m ≤ limit then absorb limit m ds else (n, d :: ds)

/-- The largest integer that a significand holds. -/
def significandLimit : Nat := 0xFFFFFFFFFFFFFFFF

/-- The largest exponent that is read. -/
def exponentLimit : Nat := 0x7FFFFFFF

/-- `f / 10 ^ k`, divided by at most `10 ^ 308` at a time, each step rounding. -/
def shrink (f : Binary64) (k : Nat) : Binary64 :=
  if k ≤ 308 then f.div (.powerOfTen k)
  else if f.isZero then f
  else shrink (f.div (.powerOfTen 308)) (k - 308)
  termination_by k

/-- The rounded significand, times or divided by the rounded power of ten. None if it is too
large. -/
def decimalMagnitude (significand : Nat) (exponent : Int) : Option Binary64 :=
  let f := Binary64.ofNat significand
  if exponent < 0 then some (shrink f exponent.natAbs)
  else if exponent ≤ 308 then some (f.mul (.powerOfTen exponent.toNat))
  else if f.isZero then some f
  else none

def signedFloat (negative : Bool) (x : Binary64) : Binary64 :=
  if negative then x.neg else x

/-- The number with this significand and exponent, as a float. -/
def floatNumber (negative : Bool) (significand : Nat) (exponent : Int) (rest : List UInt8) :
    Except Fault (Number × List UInt8) :=
  match decimalMagnitude significand exponent with
  | none => .error (.atLast .numberOutOfRange rest)
  | some x =>
    if h : (signedFloat negative x).isFinite then .ok (.float _ h, rest)
    else .error (.atLast .numberOutOfRange rest)

/-- The number with this significand alone: an integer if it fits 64 bits. A negative zero is a
float. -/
def integerNumber (negative : Bool) (significand : Nat) (rest : List UInt8) :
    Except Fault (Number × List UInt8) :=
  if negative then
    if h : 0 < significand ∧ significand ≤ 0x8000000000000000 then
      .ok (.integer (-significand) ⟨by omega, by omega⟩, rest)
    else floatNumber true significand 0 rest
  else if h : significand < 0x10000000000000000 then
    .ok (.integer significand ⟨by omega, by omega⟩, rest)
  else floatNumber false significand 0 rest

/-- The exponent of a number, after its letter. -/
def exponentPart (negative : Bool) (significand : Nat) (exponent : Int) : Reader Number := fun bs =>
  let (down, bs) := match bs with
    | b :: rest =>
      if b = '+'.toUInt8 then (false, rest)
      else if b = '-'.toUInt8 then (true, rest)
      else (false, bs)
    | [] => (false, [])
  match bs with
  | [] => .error (.ended .value)
  | b :: rest =>
    if isDigit b then
      let after := bs.dropWhile isDigit
      let (e, left) := absorb exponentLimit 0 (bs.takeWhile isDigit)
      if left.isEmpty then
        floatNumber negative significand (if down then exponent - e else exponent + e) after
      else if significand ≠ 0 ∧ !down then
        .error (.atLast .numberOutOfRange (left.tail ++ after))
      else floatNumber negative 0 0 after
    else .error (.atLast .invalidNumber rest)

/-- What follows the digits of a number: an exponent, or the end. -/
def afterDigits (negative : Bool) (significand : Nat) (exponent : Int) : Reader Number := fun bs =>
  match bs with
  | [] => floatNumber negative significand exponent []
  | b :: rest =>
    if b = 'e'.toUInt8 ∨ b = 'E'.toUInt8 then exponentPart negative significand exponent rest
    else floatNumber negative significand exponent bs

/-- The digits after a decimal point. Those that the significand cannot hold do not count. -/
def fractionPart (negative : Bool) (significand : Nat) (exponent : Int) : Reader Number := fun bs =>
  match bs with
  | [] => .error (.ended .value)
  | b :: _ =>
    if isDigit b then
      let ds := bs.takeWhile isDigit
      let (s, left) := absorb significandLimit significand ds
      afterDigits negative s (exponent - (ds.length - left.length : Nat)) (bs.dropWhile isDigit)
    else .error (.atNext .invalidNumber bs)

/-- A number, after its sign. Integer digits that the significand cannot hold raise the exponent. -/
def number (negative : Bool) : Reader Number := fun bs =>
  match bs with
  | [] => .error (.ended .value)
  | b :: rest =>
    if isDigit b then
      let ds := if b = '0'.toUInt8 then [b] else bs.takeWhile isDigit
      let after := if b = '0'.toUInt8 then rest else bs.dropWhile isDigit
      let (s, left) := absorb significandLimit 0 ds
      match after with
      | [] =>
        if left.isEmpty then integerNumber negative s [] else floatNumber negative s left.length []
      | c :: more =>
        if c = '.'.toUInt8 then fractionPart negative s left.length more
        else if c = 'e'.toUInt8 ∨ c = 'E'.toUInt8 then exponentPart negative s left.length more
        else if isDigit c then .error (.atNext .invalidNumber after)
        else if left.isEmpty then integerNumber negative s after
        else floatNumber negative s left.length after
    else .error (.atLast .invalidNumber rest)

/-! ## Strings -/

/-- The value of a hexadecimal digit. -/
def hexValue? (b : UInt8) : Option Nat := Hexadecimal.value? (Char.ofNat b.toNat)

/-- Four hexadecimal digits. -/
def hexCode : Reader Nat
  | a :: b :: c :: d :: rest =>
    match hexValue? a, hexValue? b, hexValue? c, hexValue? d with
    | some w, some x, some y, some z => .ok (((w * 16 + x) * 16 + y) * 16 + z, rest)
    | _, _, _, _ => .error (.atLast .invalidEscape rest)
  | _ => .error (.ended .string)

def isHighSurrogate (n : Nat) : Bool := 0xD800 ≤ n && n ≤ 0xDBFF

def isLowSurrogate (n : Nat) : Bool := 0xDC00 ≤ n && n ≤ 0xDFFF

/-- Passes over one byte that must follow a high surrogate. -/
def pairByte (expected : UInt8) : Reader Unit
  | [] => .error (.ended .string)
  | b :: rest => if b = expected then .ok ((), rest) else .error (.atLast .unpairedSurrogate rest)

/-- The character of a hexadecimal escape, a surrogate pair being two of them. -/
def hexEscape : Reader Char := fun bs => do
  let (n, bs) ← hexCode bs
  if isLowSurrogate n then .error (.atLast .loneSurrogate bs)
  else if isHighSurrogate n then do
    let ((), bs) ← pairByte '\\'.toUInt8 bs
    let ((), bs) ← pairByte 'u'.toUInt8 bs
    let (m, bs) ← hexCode bs
    if isLowSurrogate m then
      .ok (Char.ofNat (0x10000 + (n - 0xD800) * 0x400 + (m - 0xDC00)), bs)
    else .error (.atLast .loneSurrogate bs)
  else .ok (Char.ofNat n, bs)

/-- The byte that an escape letter stands for. -/
def escapeLetter? (b : UInt8) : Option UInt8 :=
  if b = '"'.toUInt8 ∨ b = '\\'.toUInt8 ∨ b = '/'.toUInt8 then some b
  else if b = 'b'.toUInt8 then some 0x08
  else if b = 'f'.toUInt8 then some 0x0C
  else if b = 'n'.toUInt8 then some '\n'.toUInt8
  else if b = 'r'.toUInt8 then some '\r'.toUInt8
  else if b = 't'.toUInt8 then some '\t'.toUInt8
  else none

/-- The bytes of an escape, after its backslash. -/
def escapeSequence : Reader (List UInt8)
  | [] => .error (.ended .string)
  | b :: rest =>
    if b = 'u'.toUInt8 then do
      let (c, rest) ← hexEscape rest
      .ok (String.utf8EncodeChar c, rest)
    else match escapeLetter? b with
      | some e => .ok ([e], rest)
      | none => .error (.atLast .invalidEscape rest)

/-- The bytes of a string up to its closing quote, added in reverse to `seen`. Every step takes a
byte, so that as many steps as there are bytes suffice. -/
def stringBytes : Nat → List UInt8 → Reader (List UInt8)
  | 0, _, _ => .error (.ended .string)
  | _ + 1, _, [] => .error (.ended .string)
  | steps + 1, seen, b :: rest =>
    if b = '"'.toUInt8 then .ok (seen.reverse, rest)
    else if b = '\\'.toUInt8 then do
      let (bytes, rest) ← escapeSequence rest
      stringBytes steps (bytes.reverse ++ seen) rest
    else if b < 0x20 then .error (.atLast .controlCharacter rest)
    else stringBytes steps (b :: seen) rest

/-- A string, after its opening quote. -/
def string : Reader String := fun bs => do
  let (bytes, rest) ← stringBytes bs.length [] bs
  match Utf8.decode? bytes with
  | some s => .ok (s, rest)
  | none => .error (.atLast (.invalidCodePoint (bytes.length - Utf8.validPrefix bytes)) rest)

/-! ## Lists and objects -/

variable {σ : Type}

/-- The start of the next item, after a comma. -/
def itemAfterComma (bs : List UInt8) : Except Fault (List UInt8) :=
  match skipBlanks bs with
  | [] => .error (.ended .value)
  | b :: rest =>
    if b = ']'.toUInt8 then .error (.atNext .trailingComma (b :: rest)) else .ok (b :: rest)

/-- Reads the items of a list and its closing bracket, folding each into a state. Every step takes
a byte, so that as many steps as there are bytes suffice. -/
def foldItems (item : σ → Reader σ) : Nat → Bool → σ → Reader σ
  | 0, _, _, _ => .error (.ended .list)
  | steps + 1, first, acc, bs =>
    match skipBlanks bs with
    | [] => .error (.ended .list)
    | b :: rest =>
      if b = ']'.toUInt8 then .ok (acc, rest)
      else do
        let start ←
          if first then .ok (b :: rest)
          else if b = ','.toUInt8 then itemAfterComma rest
          else .error (.atNext .expectedListEnd (b :: rest))
        let (acc, rest) ← item acc start
        foldItems item steps false acc rest

/-- The text of the next key after a comma, from its opening quote on. -/
def keyAfterComma (bs : List UInt8) : Except Fault (List UInt8) :=
  match skipBlanks bs with
  | [] => .error (.ended .value)
  | b :: rest =>
    if b = '}'.toUInt8 then .error (.atNext .trailingComma (b :: rest)) else .ok (b :: rest)

/-- A key and its colon. -/
def key : Reader String
  | [] => .error (.ended .object)
  | b :: rest =>
    if b = '"'.toUInt8 then do
      let (k, rest) ← string rest
      match skipBlanks rest with
      | [] => .error (.ended .object)
      | c :: more =>
        if c = ':'.toUInt8 then .ok (k, more) else .error (.atNext .expectedColon (c :: more))
    else .error (.atNext .keyNotString (b :: rest))

/-- Reads the members of an object and its closing brace, folding each into a state. -/
def foldMembers (member : σ → String → Reader σ) : Nat → Bool → σ → Reader σ
  | 0, _, _, _ => .error (.ended .object)
  | steps + 1, first, acc, bs =>
    match skipBlanks bs with
    | [] => .error (.ended .object)
    | b :: rest =>
      if b = '}'.toUInt8 then .ok (acc, rest)
      else do
        let start ←
          if first then .ok (b :: rest)
          else if b = ','.toUInt8 then keyAfterComma rest
          else .error (.atNext .expectedObjectEnd (b :: rest))
        let (k, rest) ← key start
        let (acc, rest) ← member acc k rest
        foldMembers member steps false acc rest

/-- Only blanks are left. -/
def finish (bs : List UInt8) : Except Fault Unit :=
  match skipBlanks bs with
  | [] => .ok ()
  | rest => .error (.atNext .trailingCharacters rest)

end GattRpc.Json.Read
