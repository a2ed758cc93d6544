import GattRpc.Json.Parser

/-! # Framed messages

Each message on the inbox is a JSON text followed by one delimiter byte. Reads may end anywhere
inside a record, so an `Accumulator` carries the unfinished record from one chunk to the next. A
record that grows past the limit is counted but not kept. -/

namespace GattRpc

namespace Frame

/-- The record separator, which no JSON text contains. -/
def delimiter : UInt8 := 0x1E

/-- The largest record that is kept unless a limit is given. -/
def defaultLimit : Nat := 65536

/-- Room that is set aside for a record. -/
def initialCapacity : Nat := 1024

/-- The frame of a message. -/
def encode (message : Json) : List UInt8 := message.toBytes ++ [delimiter]

/-- Bytes that a record may consist of without being a message. -/
def isBlank (b : UInt8) : Bool :=
  b = ' '.toUInt8 || b = '\t'.toUInt8 || b = '\n'.toUInt8 || b = 0x0C || b = '\r'.toUInt8

/-- A record that was discarded. -/
inductive Dropped
  | malformed (length : Nat) (fault : String)
  | oversized (length : Nat)
deriving DecidableEq, Repr

/-- What the bytes of a finished record amount to: a message, a discarded record, or nothing. -/
inductive Outcome
  | message (v : Json)
  | dropped (d : Dropped)
  | blank

def Outcome.message? : Outcome → Option Json
  | message v => some v
  | _ => none

def Outcome.dropped? : Outcome → Option Dropped
  | dropped d => some d
  | _ => none

/-- Reads a record that is within the limit. -/
def readRecord (record : List UInt8) : Outcome :=
  if record.all isBlank then .blank
  else match Json.parse record with
    | .ok v => .message v
    | .error f => .dropped (.malformed record.length (f.message record))

end Frame

/-- The unfinished record of a byte stream. -/
structure Accumulator where
  /-- The largest record that is kept. -/
  limit : Nat := Frame.defaultLimit
  /-- The bytes of the record, unless it is too large. -/
  buffer : Array UInt8 := .emptyWithCapacity Frame.initialCapacity
  /-- The length of a record that is too large; zero otherwise. -/
  overflow : Nat := 0
  /-- How many records were discarded. -/
  dropped : Nat := 0
deriving DecidableEq

namespace Accumulator

/-- Takes a byte of a record. -/
def push (a : Accumulator) (b : UInt8) : Accumulator :=
  if 0 < a.overflow then { a with overflow := a.overflow + 1 }
  else if a.limit ≤ a.buffer.size then { a with overflow := a.buffer.size + 1, buffer := #[] }
  else { a with buffer := a.buffer.push b }

/-- What the record amounts to once its delimiter arrives. -/
def outcome (a : Accumulator) : Frame.Outcome :=
  if 0 < a.overflow then .dropped (.oversized a.overflow) else Frame.readRecord a.buffer.toList

/-- Forgets the unfinished record. -/
def reset (a : Accumulator) : Accumulator := { a with buffer := #[], overflow := 0 }

/-- Lets go of a finished record: of its length if it was too large, else of its bytes. -/
def release (a : Accumulator) : Accumulator :=
  if 0 < a.overflow then { a with overflow := 0 } else { a with buffer := #[] }

/-- Starts the next record, counting the last one if it was discarded. -/
def next (a : Accumulator) : Frame.Outcome → Accumulator
  | .dropped _ => { a.release with dropped := a.dropped + 1 }
  | _ => a.release

/-- Takes a chunk, and gives the outcomes of the records that it finishes, in order. -/
def feed : Accumulator → List UInt8 → Accumulator × List Frame.Outcome
  | a, [] => (a, [])
  | a, b :: rest =>
    if b = Frame.delimiter then
      let out := a.outcome
      let (last, more) := feed (a.next out) rest
      (last, out :: more)
    else feed (a.push b) rest

/-- How many bytes of the unfinished record have arrived. -/
def pending (a : Accumulator) : Nat := a.buffer.size + a.overflow

end Accumulator

end GattRpc
