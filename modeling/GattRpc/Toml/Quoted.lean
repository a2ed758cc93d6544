import GattRpc.Text.Hexadecimal

/-! # Writing TOML strings

A string is written in the plainest of four notations that can hold it: between double quotes,
between single quotes, or between three of either, where it may run over several lines. Only a
string that none of them holds as it is gets escapes, apart from tabs, which are always escaped
where escapes are read. -/

namespace GattRpc.Toml

inductive Quoting
  | basic
  | literal
  | longBasic
  | longLiteral
deriving DecidableEq, Repr

/-- A character that no notation holds as it is. -/
def isControl (c : Char) : Bool := (c.toNat < 0x20 && c ≠ '\t' && c ≠ '\n') || c.toNat = 0x7F

/-- The longest run of a character, where `run` of them stand just before. -/
def longestRun (q : Char) (run : Nat) : List Char → Nat
  | [] => run
  | c :: cs => if c = q then longestRun q (run + 1) cs else max run (longestRun q 0 cs)

/-- The notation that a string is written in. -/
def Quoting.of (cs : List Char) : Quoting :=
  let control := cs.any isControl
  let lines := cs.contains '\n'
  let escape := cs.contains '\\'
  let doubles := longestRun '"' 0 cs
  let singles := longestRun '\'' 0 cs
  if !control && !escape && doubles = 0 && !lines then .basic
  else if !control && singles = 0 && !lines then .literal
  else if !control && !escape && doubles ≤ 2 then .longBasic
  else if !control && singles ≤ 2 then .longLiteral
  else if lines then .longBasic
  else .basic

/-- A character between double quotes that is neither a quote nor a line break. -/
def escaped (c : Char) : List Char :=
  if c = '\t' then ['\\', 't']
  else if c = '\\' then ['\\', '\\']
  else if c = '\x08' then ['\\', 'b']
  else if c = '\x0c' then ['\\', 'f']
  else if c = '\r' then ['\\', 'r']
  else if isControl c then
    ['\\', 'u', '0', '0', Hexadecimal.capital (c.toNat / 16), Hexadecimal.capital (c.toNat % 16)]
  else [c]

/-- The characters between double quotes on one line. -/
def basicBody (cs : List Char) : List Char :=
  cs.flatMap fun c =>
    if c = '"' then ['\\', '"'] else if c = '\n' then ['\\', 'n'] else escaped c

/-- The characters between three double quotes, where `run` quotes stand just before as they are.
Every third quote in a row is escaped. -/
def longBasicBody (run : Nat) : List Char → List Char
  | [] => []
  | c :: cs =>
    if c = '"' then
      if run < 2 then '"' :: longBasicBody (run + 1) cs else '\\' :: '"' :: longBasicBody 0 cs
    else if c = '\n' then '\n' :: longBasicBody 0 cs
    else escaped c ++ longBasicBody 0 cs

/-- A string of several lines starts on a line of its own. -/
def leadingBreak (cs : List Char) : List Char := if cs.contains '\n' then ['\n'] else []

/-- The characters of a string in a notation. -/
def Quoting.write (cs : List Char) : Quoting → List Char
  | basic => '"' :: (basicBody cs ++ ['"'])
  | literal => '\'' :: (cs ++ ['\''])
  | longBasic => ['"', '"', '"'] ++ leadingBreak cs ++ longBasicBody 0 cs ++ ['"', '"', '"']
  | longLiteral => ['\'', '\'', '\''] ++ leadingBreak cs ++ cs ++ ['\'', '\'', '\'']

/-- The characters of a string, in the notation that is best for it. -/
def quotedString (s : String) : List Char := (Quoting.of s.toList).write s.toList

end GattRpc.Toml
