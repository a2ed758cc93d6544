import GattRpc.Json.Printer
import GattRpc.Shape

/-! # What is wrong with a JSON text

A fault has a cause and a place, the place being how many bytes of the text were not yet counted
as read. Line and column are worked out only for the message. -/

namespace GattRpc.Json

/-- What was being read when the text ended. -/
inductive Region
  | value
  | list
  | object
  | string
deriving DecidableEq, Repr

inductive Cause
  | endOfText (region : Region)
  | expectedValue
  | expectedIdent
  | keyNotString
  | expectedColon
  | expectedListEnd
  | expectedObjectEnd
  | trailingComma
  | trailingCharacters
  | recursionLimit
  | invalidNumber
  | numberOutOfRange
  | controlCharacter
  | invalidEscape
  | loneSurrogate
  | unpairedSurrogate
  | invalidCodePoint (undecoded : Nat)
  | mismatch (m : Mismatch)
deriving DecidableEq, Repr

structure Fault where
  cause : Cause
  unread : Nat
deriving DecidableEq, Repr

/-- The three kinds of fault: the text ends too early, is malformed, or does not fit. -/
inductive Category
  | eof
  | malformed
  | data
deriving DecidableEq, Repr

namespace Cause

def category : Cause → Category
  | endOfText _ => .eof
  | mismatch _ => .data
  | _ => .malformed

def message : Cause → String
  | endOfText .value => "EOF while parsing a value"
  | endOfText .list => "EOF while parsing a list"
  | endOfText .object => "EOF while parsing an object"
  | endOfText .string => "EOF while parsing a string"
  | expectedValue => "expected value"
  | expectedIdent => "expected ident"
  | keyNotString => "key must be a string"
  | expectedColon => "expected `:`"
  | expectedListEnd => "expected `,` or `]`"
  | expectedObjectEnd => "expected `,` or `\x7d`"
  | trailingComma => "trailing comma"
  | trailingCharacters => "trailing characters"
  | recursionLimit => "recursion limit exceeded"
  | invalidNumber => "invalid number"
  | numberOutOfRange => "number out of range"
  | controlCharacter => "control character (\\u0000-\\u001F) found while parsing a string"
  | invalidEscape => "invalid escape"
  | loneSurrogate => "lone leading surrogate in hex escape"
  | unpairedSurrogate => "unexpected end of hex escape"
  | invalidCodePoint _ => "invalid unicode code point"
  | mismatch m => m.message floatLayout

end Cause

namespace Fault

/-- The text has ended inside `region`. -/
def ended (region : Region) : Fault := ⟨.endOfText region, 0⟩

/-- The fault lies in the last byte read, before `rest`. -/
def atLast (cause : Cause) (rest : List UInt8) : Fault := ⟨cause, rest.length⟩

/-- The fault lies in the first byte of `rest`. -/
def atNext (cause : Cause) (rest : List UInt8) : Fault := ⟨cause, rest.length - 1⟩

/-- A value read so far does not fit. -/
def misfit (m : Mismatch) (rest : List UInt8) : Fault := ⟨.mismatch m, rest.length⟩

/-- The message with its place in `text`, counted in lines from one and bytes of a line. -/
def message (text : List UInt8) (f : Fault) : String :=
  let read := text.take (text.length - f.unread)
  let line := 1 + read.count '\n'.toUInt8
  let onLine := (read.reverse.takeWhile (· ≠ '\n'.toUInt8)).length
  let column := match f.cause with
    | .invalidCodePoint undecoded => onLine - undecoded
    | _ => onLine
  s!"{f.cause.message} at line {line} column {column}"

end Fault

end GattRpc.Json
