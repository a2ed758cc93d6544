import GattRpc.Json.Basic
import GattRpc.Binary64.Shortest
import GattRpc.Text.Utf8
import GattRpc.Text.Hexadecimal

/-! # JSON text of a value

Compact text: no blanks, members in the order of the value, and in strings only the quote, the
backslash and the characters below U+0020 escaped. -/

namespace GattRpc.Json

/-- Floats have the fewest digits that read back; those with a leading digit between `10 ^ -5` and
`10 ^ 15` are positional, and of two equally near digits the even one is taken. -/
def floatLayout : Binary64.Layout := ⟨fun e => -5 ≤ e ∧ e ≤ 15, .even⟩

namespace Number

def chars : Number → List Char
  | .integer i _ => Decimal.signed i
  | .float x _ => x.text floatLayout

end Number

/-- A character as it stands inside quotes. -/
def escape (c : Char) : List Char :=
  if c = '"' then ['\\', '"']
  else if c = '\\' then ['\\', '\\']
  else if c = '\n' then ['\\', 'n']
  else if c = '\r' then ['\\', 'r']
  else if c = '\t' then ['\\', 't']
  else if c = '\x08' then ['\\', 'b']
  else if c = '\x0c' then ['\\', 'f']
  else if c.toNat < 0x20 then
    ['\\', 'u', '0', '0', Hexadecimal.small (c.toNat / 16), Hexadecimal.small (c.toNat % 16)]
  else [c]

def quoted (s : String) : List Char :=
  '"' :: (s.toList.flatMap escape ++ ['"'])

mutual

def chars : Json → List Char
  | .null => ['n', 'u', 'l', 'l']
  | .boolean true => ['t', 'r', 'u', 'e']
  | .boolean false => ['f', 'a', 'l', 's', 'e']
  | .number n => n.chars
  | .string s => quoted s
  | .array [] => ['[', ']']
  | .array (x :: xs) => '[' :: (x.chars ++ charsOfItems xs)
  | .object [] => ['{', '}']
  | .object ((k, v) :: ms) => '{' :: (quoted k ++ ':' :: (v.chars ++ charsOfMembers ms))

/-- The items after the first one, and the closing bracket. -/
def charsOfItems : List Json → List Char
  | [] => [']']
  | x :: xs => ',' :: (x.chars ++ charsOfItems xs)

/-- The members after the first one, and the closing brace. -/
def charsOfMembers : List (String × Json) → List Char
  | [] => ['}']
  | (k, v) :: ms => ',' :: (quoted k ++ ':' :: (v.chars ++ charsOfMembers ms))

end

/-- The compact text of a value. -/
def text (v : Json) : String := String.ofList v.chars

/-- The bytes of the compact text. -/
def toBytes (v : Json) : List UInt8 := Utf8.encode v.text

/-- A line break and the blanks that follow it. -/
def newline (indent : Nat) : List Char := '\n' :: List.replicate indent ' '

mutual

/-- The text spread over lines, each level indented by two more blanks. Empty containers stay
closed. -/
def prettyChars (indent : Nat) : Json → List Char
  | .array (x :: xs) =>
    '[' :: (newline (indent + 2) ++ x.prettyChars (indent + 2) ++ prettyItems indent xs)
  | .object ((k, v) :: ms) =>
    '{' :: (newline (indent + 2) ++ quoted k ++ ':' :: ' ' ::
      (v.prettyChars (indent + 2) ++ prettyMembers indent ms))
  | v => v.chars

def prettyItems (indent : Nat) : List Json → List Char
  | [] => newline indent ++ [']']
  | x :: xs => ',' :: (newline (indent + 2) ++ x.prettyChars (indent + 2) ++ prettyItems indent xs)

def prettyMembers (indent : Nat) : List (String × Json) → List Char
  | [] => newline indent ++ ['}']
  | (k, v) :: ms =>
    ',' :: (newline (indent + 2) ++ quoted k ++ ':' :: ' ' ::
      (v.prettyChars (indent + 2) ++ prettyMembers indent ms))

end

def prettyText (v : Json) : String := String.ofList (v.prettyChars 0)

end GattRpc.Json
