import GattRpc.Toml.Basic
import GattRpc.Text.Decimal
import GattRpc.Text.Hexadecimal

/-! # Scanning TOML text

Blanks, comments, keys and the values that are not containers. A scanner takes the characters that
are left and gives a value and the characters after it, or nothing if it does not apply. -/

namespace GattRpc.Toml.Read

abbrev Scan (α : Type) := List Char → Option (α × List Char)

def isBlank (c : Char) : Bool := c = ' ' || c = '\t'

/-- A character that may stand in a comment or a literal string. -/
def isPrintable (c : Char) : Bool := c = '\t' || (0x20 ≤ c.toNat && c.toNat ≠ 0x7F)

def isDigit (c : Char) : Bool := '0' ≤ c && c ≤ '9'

def skipBlanks (cs : List Char) : List Char := cs.dropWhile isBlank

/-- A line break, if there is one. -/
def newline? : List Char → Option (List Char)
  | '\n' :: rest => some rest
  | '\r' :: '\n' :: rest => some rest
  | _ => none

/-- A comment, if there is one. -/
def skipComment : List Char → List Char
  | '#' :: rest => rest.dropWhile isPrintable
  | cs => cs

/-- The end of a line, after blanks and a comment. -/
def endLine? (cs : List Char) : Option (List Char) :=
  match skipComment (skipBlanks cs) with
  | [] => some []
  | rest => newline? rest

/-- Blanks, comments and line breaks. Every step takes a character. -/
def skipLines : Nat → List Char → List Char
  | 0, cs => cs
  | steps + 1, cs =>
    let rest := skipComment (skipBlanks cs)
    match newline? rest with
    | some more => skipLines steps more
    | none => rest

/-- Blanks and line breaks. Every step takes a character. -/
def skipBlankLines : Nat → List Char → List Char
  | 0, cs => cs
  | steps + 1, cs =>
    match newline? (skipBlanks cs) with
    | some rest => skipBlankLines steps rest
    | none => skipBlanks cs

/-! ## Strings -/

/-- A character given by its code point in so many hexadecimal digits. -/
def codePoint (size : Nat) : Scan Char := fun cs => do
  let ds := cs.take size
  if ds.length < size then none
  let values ← ds.mapM Hexadecimal.value?
  let n := values.foldl (fun n d => 16 * n + d) 0
  if h : n.isValidChar then some (Char.ofNatAux n h, cs.drop size) else none

/-- An escape, after its backslash. -/
def escape : Scan Char
  | 'b' :: rest => some ('\x08', rest)
  | 'f' :: rest => some ('\x0c', rest)
  | 'n' :: rest => some ('\n', rest)
  | 'r' :: rest => some ('\r', rest)
  | 't' :: rest => some ('\t', rest)
  | '"' :: rest => some ('"', rest)
  | '\\' :: rest => some ('\\', rest)
  | 'u' :: rest => codePoint 4 rest
  | 'U' :: rest => codePoint 8 rest
  | _ => none

/-- The characters of a string on one line, up to its closing quote, added in reverse to `seen`. -/
def basicChars : Nat → List Char → Scan (List Char)
  | 0, _, _ => none
  | _ + 1, _, [] => none
  | steps + 1, seen, c :: rest =>
    if c = '"' then some (seen.reverse, rest)
    else if c = '\\' then do
      let (e, rest) ← escape rest
      basicChars steps (e :: seen) rest
    else if isPrintable c then basicChars steps (c :: seen) rest
    else none

/-- The characters of a literal string on one line. -/
def literalChars : Scan (List Char) := fun cs =>
  match cs.dropWhile fun c => isPrintable c && c ≠ '\'' with
  | '\'' :: rest => some (cs.takeWhile fun c => isPrintable c && c ≠ '\'', rest)
  | _ => none

/-- What a run of quotes inside a string of several lines stands for: three end the string, and up
to two before them belong to it. -/
def quoteRun (quote : Char) (cs : List Char) : Option (List Char × Bool × List Char) :=
  let run := cs.takeWhile (· = quote)
  let rest := cs.dropWhile (· = quote)
  if run.length < 3 then some (run, false, rest)
  else if run.length ≤ 5 then some (run.drop 3, true, rest)
  else none

/-- The characters of a string of several lines. A backslash at the end of a line joins it with the
next text. -/
def longBasicChars : Nat → List Char → Scan (List Char)
  | 0, _, _ => none
  | _ + 1, _, [] => none
  | steps + 1, seen, c :: rest =>
    if c = '"' then do
      let (quotes, closed, rest) ← quoteRun '"' (c :: rest)
      let seen := quotes ++ seen
      if closed then some (seen.reverse, rest) else longBasicChars steps seen rest
    else if c = '\\' then
      match newline? (skipBlanks rest) with
      | some more => longBasicChars steps seen (skipBlankLines more.length more)
      | none => do
        let (e, rest) ← escape rest
        longBasicChars steps (e :: seen) rest
    else match newline? (c :: rest) with
      | some rest => longBasicChars steps ('\n' :: seen) rest
      | none => if isPrintable c then longBasicChars steps (c :: seen) rest else none

/-- The characters of a literal string of several lines. -/
def longLiteralChars : Nat → List Char → Scan (List Char)
  | 0, _, _ => none
  | _ + 1, _, [] => none
  | steps + 1, seen, c :: rest =>
    if c = '\'' then do
      let (quotes, closed, rest) ← quoteRun '\'' (c :: rest)
      let seen := quotes ++ seen
      if closed then some (seen.reverse, rest) else longLiteralChars steps seen rest
    else match newline? (c :: rest) with
      | some rest => longLiteralChars steps ('\n' :: seen) rest
      | none => if isPrintable c then longLiteralChars steps (c :: seen) rest else none

/-- A line break right after the opening quotes does not count. -/
def dropFirstNewline (cs : List Char) : List Char := (newline? cs).getD cs

/-- A string in any of the four notations. -/
def string : Scan String
  | '"' :: '"' :: '"' :: rest => do
    let (cs, rest) ← longBasicChars rest.length [] (dropFirstNewline rest)
    some (String.ofList cs, rest)
  | '\'' :: '\'' :: '\'' :: rest => do
    let (cs, rest) ← longLiteralChars rest.length [] (dropFirstNewline rest)
    some (String.ofList cs, rest)
  | '"' :: rest => do
    let (cs, rest) ← basicChars rest.length [] rest
    some (String.ofList cs, rest)
  | '\'' :: rest => do
    let (cs, rest) ← literalChars rest
    some (String.ofList cs, rest)
  | _ => none

/-! ## Keys -/

def isBareKeyChar (c : Char) : Bool :=
  isDigit c || ('a' ≤ c && c ≤ 'z') || ('A' ≤ c && c ≤ 'Z') || c = '_' || c = '-'

/-- One part of a key. -/
def simpleKey : Scan String
  | '"' :: rest => do
    let (cs, rest) ← basicChars rest.length [] rest
    some (String.ofList cs, rest)
  | '\'' :: rest => do
    let (cs, rest) ← literalChars rest
    some (String.ofList cs, rest)
  | cs =>
    let k := cs.takeWhile isBareKeyChar
    if k.isEmpty then none else some (String.ofList k, cs.dropWhile isBareKeyChar)

/-- How many parts a key may have, and how many containers a value may have inside each other. -/
def nestingLimit : Nat := 79

/-- A key, its parts separated by dots, with blanks around each. -/
def keyParts : Nat → Scan (List String)
  | 0, _ => none
  | parts + 1, cs => do
    let (k, rest) ← simpleKey (skipBlanks cs)
    match skipBlanks rest with
    | '.' :: rest => do
      let (ks, rest) ← keyParts parts rest
      some (k :: ks, rest)
    | rest => some ([k], rest)

def key : Scan (List String) := keyParts nestingLimit

/-! ## Numbers -/

/-- A sign, if there is one; true for a minus. -/
def sign : List Char → Bool × List Char
  | '-' :: rest => (true, rest)
  | '+' :: rest => (false, rest)
  | cs => (false, cs)

/-- Digits after the first one, with single underscores between them. -/
def moreDigits (isDig : Char → Bool) : List Char → Option (List Char × List Char)
  | '_' :: c :: rest =>
    if isDig c then do
      let (ds, rest) ← moreDigits isDig rest
      some (c :: ds, rest)
    else none
  | ['_'] => none
  | c :: rest =>
    if isDig c then do
      let (ds, rest) ← moreDigits isDig rest
      some (c :: ds, rest)
    else some ([], c :: rest)
  | [] => some ([], [])

/-- Digits, the first one of which may be a zero. -/
def digits (isDig : Char → Bool) : Scan (List Char)
  | c :: rest =>
    if isDig c then do
      let (ds, rest) ← moreDigits isDig rest
      some (c :: ds, rest)
    else none
  | [] => none

/-- The digits of a decimal integer: a zero stands alone. -/
def decimalDigits : Scan (List Char)
  | '0' :: rest => some (['0'], rest)
  | cs => digits isDigit cs

/-- The number that digits spell in a base. -/
def ofDigits (base : Nat) (ds : List Char) : Nat :=
  ds.foldl (fun n c => base * n + (Hexadecimal.value? c).getD 0) 0

/-- An integer that fits 64 bits. -/
def integerValue (negative : Bool) (n : Nat) : Option Toml :=
  let i : Int := if negative then -n else n
  if -0x8000000000000000 ≤ i ∧ i < 0x8000000000000000 then some (.integer i) else none

/-- An integer with the prefix of its base, or a decimal one. -/
def integer : Scan Toml
  | '0' :: 'x' :: rest => do
    let (ds, rest) ← digits (fun c => (Hexadecimal.value? c).isSome) rest
    some (← integerValue false (ofDigits 16 ds), rest)
  | '0' :: 'o' :: rest => do
    let (ds, rest) ← digits (fun c => '0' ≤ c && c ≤ '7') rest
    some (← integerValue false (ofDigits 8 ds), rest)
  | '0' :: 'b' :: rest => do
    let (ds, rest) ← digits (fun c => c = '0' || c = '1') rest
    some (← integerValue false (ofDigits 2 ds), rest)
  | cs => do
    let (negative, rest) := sign cs
    let (ds, rest) ← decimalDigits rest
    some (← integerValue negative (ofDigits 10 ds), rest)

/-- The nearest number to `n * 10 ^ e`. Far outside the range of the format it is zero or infinite
without further work. -/
def nearest (n : Nat) (e : Int) : Binary64 :=
  let width : Int := (Decimal.digits n).length + e
  if n = 0 ∨ width < -400 then .zero
  else if 400 < width then .infinity
  else .ofQuotient (n * Nat.pow 10 e.toNat) (Nat.pow 10 (-e).toNat)

/-- The exponent of a float, zero if there is none. -/
def exponent : Scan (Option Int)
  | c :: rest =>
    if c = 'e' ∨ c = 'E' then do
      let (negative, rest) := sign rest
      let (ds, rest) ← digits isDigit rest
      let n : Int := ofDigits 10 ds
      some (some (if negative then -n else n), rest)
    else some (none, c :: rest)
  | [] => some (none, [])

/-- The digits after a decimal point, if there is one. -/
def fraction : Scan (Option (List Char))
  | '.' :: rest => do
    let (ds, rest) ← digits isDigit rest
    some (some ds, rest)
  | cs => some (none, cs)

/-- Infinity and not-a-number. -/
def specialFloat : Scan Binary64
  | 'i' :: 'n' :: 'f' :: rest => some (.infinity, rest)
  | 'n' :: 'a' :: 'n' :: rest => some (.nan, rest)
  | _ => none

/-- A float, which has a fraction or an exponent. Too large a positive one is refused. -/
def decimalFloat (negative : Bool) : Scan Binary64 := fun cs => do
  let (whole, rest) ← decimalDigits cs
  let (part, rest) ← fraction rest
  let (power, rest) ← exponent rest
  if part.isNone ∧ power.isNone then none
  let ds := part.getD []
  let x := nearest (ofDigits 10 (whole ++ ds)) (power.getD 0 - ds.length)
  if negative then some (x.neg, rest) else if x.isFinite then some (x, rest) else none

def float : Scan Binary64 := fun cs =>
  let (negative, rest) := sign cs
  decimalFloat negative rest <|> do
    let (x, rest) ← specialFloat rest
    some (if negative then x.neg else x, rest)

/-! ## Dates and times -/

/-- A number in exactly so many digits, within bounds. -/
def fixed (size low high : Nat) : Scan Nat := fun cs => do
  let ds := cs.take size
  if ds.length < size ∨ !ds.all isDigit then none
  let n := ofDigits 10 ds
  if low ≤ n ∧ n ≤ high then some (n, cs.drop size) else none

/-- One given character. -/
def char (c : Char) : Scan Unit
  | d :: rest => if d = c then some ((), rest) else none
  | [] => none

def daysOf (year month : Nat) : Nat :=
  if month = 2 then
    if year % 4 = 0 ∧ (year % 100 ≠ 0 ∨ year % 400 = 0) then 29 else 28
  else if month = 4 ∨ month = 6 ∨ month = 9 ∨ month = 11 then 30
  else 31

def date : Scan Unit := fun cs => do
  let (year, rest) ← fixed 4 0 9999 cs
  let ((), rest) ← char '-' rest
  let (month, rest) ← fixed 2 1 12 rest
  let ((), rest) ← char '-' rest
  let (_, rest) ← fixed 2 1 (daysOf year month) rest
  some ((), rest)

def time : Scan Unit := fun cs => do
  let (_, rest) ← fixed 2 0 23 cs
  let ((), rest) ← char ':' rest
  let (_, rest) ← fixed 2 0 59 rest
  let ((), rest) ← char ':' rest
  let (_, rest) ← fixed 2 0 60 rest
  match rest with
  | '.' :: more =>
    if (more.takeWhile isDigit).isEmpty then none else some ((), more.dropWhile isDigit)
  | _ => some ((), rest)

/-- The offset of a time from universal time. -/
def offset : Scan Unit
  | 'Z' :: rest | 'z' :: rest => some ((), rest)
  | '+' :: rest | '-' :: rest => do
    let (_, rest) ← fixed 2 0 23 rest
    let ((), rest) ← char ':' rest
    let (_, rest) ← fixed 2 0 59 rest
    some ((), rest)
  | _ => none

/-- A time after a date, with or without an offset. -/
def timeOfDay : Scan Unit
  | c :: rest =>
    if c = 'T' ∨ c = 't' ∨ c = ' ' then do
      let ((), rest) ← time rest
      offset rest <|> some ((), rest)
    else none
  | [] => none

def dateTime : Scan Unit := fun cs =>
  (do
    let ((), rest) ← date cs
    timeOfDay rest <|> some ((), rest))
  <|> time cs

/-! ## Values that are not containers -/

/-- A fixed word. -/
def word (w : List Char) : Scan Unit := fun cs =>
  if w.isPrefixOf cs then some ((), cs.drop w.length) else none

def scalar : Scan Toml := fun cs =>
  match cs with
  | [] => none
  | c :: _ =>
    if c = '"' ∨ c = '\'' then (string cs).map fun (s, rest) => (.string s, rest)
    else if c = 't' then (word ['t', 'r', 'u', 'e'] cs).map fun ((), rest) => (.boolean true, rest)
    else if c = 'f' then
      (word ['f', 'a', 'l', 's', 'e'] cs).map fun ((), rest) => (.boolean false, rest)
    else if c = 'i' ∨ c = 'n' then (specialFloat cs).map fun (x, rest) => (.float x, rest)
    else if c = '+' ∨ c = '-' ∨ isDigit c then
      ((dateTime cs).map fun ((), rest) => (.dateTime, rest))
        <|> ((float cs).map fun (x, rest) => (.float x, rest))
        <|> integer cs
    else none

end GattRpc.Toml.Read
