import GattRpc.Json.Parser
import GattRpc.Json.Typed

/-! # Fields of a record, from text

The same fields read straight from text, in the order of the text, so that the first fault of any
kind is the one reported. Members that the record does not have are only scanned. -/

namespace GattRpc.Json.Read

/-! ## Skipping -/

/-- The kind of an open container. -/
inductive Bracket
  | list
  | object
deriving DecidableEq, Repr

/-- A number's digits with fraction and exponent, after its sign. Their size does not matter. -/
def skipNumber (bs : List UInt8) : Except Fault (List UInt8) := do
  let afterInteger ← match bs with
    | [] => .error (.atLast .invalidNumber [])
    | b :: rest =>
      if b = '0'.toUInt8 then
        if (rest.head?.map isDigit).getD false then .error (.atNext .invalidNumber rest)
        else .ok rest
      else if isDigit b then .ok (rest.dropWhile isDigit)
      else .error (.atLast .invalidNumber rest)
  let afterFraction ← match afterInteger with
    | b :: rest =>
      if b = '.'.toUInt8 then
        if (rest.head?.map isDigit).getD false then .ok (rest.dropWhile isDigit)
        else .error (.atNext .invalidNumber rest)
      else .ok afterInteger
    | [] => .ok []
  match afterFraction with
  | b :: rest =>
    if b = 'e'.toUInt8 ∨ b = 'E'.toUInt8 then
      let digits := match rest with
        | s :: more => if s = '+'.toUInt8 ∨ s = '-'.toUInt8 then more else rest
        | [] => []
      match digits with
      | [] => .error (.atLast .invalidNumber [])
      | d :: more =>
        if isDigit d then .ok (more.dropWhile isDigit) else .error (.atLast .invalidNumber more)
    else .ok afterFraction
  | [] => .ok []

/-- A string up to its closing quote. Escapes need four digits each, not proper surrogates. -/
def skipString : Nat → List UInt8 → Except Fault (List UInt8)
  | 0, _ => .error (.ended .string)
  | _ + 1, [] => .error (.ended .string)
  | steps + 1, b :: rest =>
    if b = '"'.toUInt8 then .ok rest
    else if b = '\\'.toUInt8 then
      match rest with
      | [] => .error (.ended .string)
      | c :: more =>
        if c = 'u'.toUInt8 then do
          let (_, more) ← hexCode more
          skipString steps more
        else match escapeLetter? c with
          | some _ => skipString steps more
          | none => .error (.atLast .invalidEscape more)
    else if b < 0x20 then .error (.atLast .controlCharacter rest)
    else skipString steps rest

/-- A value that is not a container, or the opening of one. -/
def skipStart (bs : List UInt8) : Except Fault (Option Bracket × List UInt8) :=
  match skipBlanks bs with
  | [] => .error (.ended .value)
  | b :: rest =>
    if b = 'n'.toUInt8 then do
      let ((), rest) ← word ['u'.toUInt8, 'l'.toUInt8, 'l'.toUInt8] rest
      .ok (none, rest)
    else if b = 't'.toUInt8 then do
      let ((), rest) ← word ['r'.toUInt8, 'u'.toUInt8, 'e'.toUInt8] rest
      .ok (none, rest)
    else if b = 'f'.toUInt8 then do
      let ((), rest) ← word ['a'.toUInt8, 'l'.toUInt8, 's'.toUInt8, 'e'.toUInt8] rest
      .ok (none, rest)
    else if b = '-'.toUInt8 then do
      let rest ← skipNumber rest
      .ok (none, rest)
    else if isDigit b then do
      let rest ← skipNumber (b :: rest)
      .ok (none, rest)
    else if b = '"'.toUInt8 then do
      let rest ← skipString rest.length rest
      .ok (none, rest)
    else if b = '['.toUInt8 then .ok (some .list, rest)
    else if b = '{'.toUInt8 then .ok (some .object, rest)
    else .error (.atNext .expectedValue (b :: rest))

/-- The byte that closes a container. -/
def Bracket.closing : Bracket → UInt8
  | list => ']'.toUInt8
  | object => '}'.toUInt8

/-- Closes as many of the open containers as end here. Gives those still open and the text of the
next item, or no container when all are closed. `afterItem` tells that a comma may come. -/
def closeContainers : List Bracket → Bool → List UInt8 → Except Fault (List Bracket × List UInt8)
  | [], _, bs => .ok ([], bs)
  | top :: outer, afterItem, bs =>
    match skipBlanks bs with
    | [] => .error (.ended (match top with | .list => .list | .object => .object))
    | b :: rest =>
      if afterItem ∧ b = ','.toUInt8 then .ok (top :: outer, rest)
      else if b = top.closing then closeContainers outer true rest
      else if afterItem then
        .error (.atNext (match top with | .list => .expectedListEnd | .object => .expectedObjectEnd)
          (b :: rest))
      else .ok (top :: outer, b :: rest)

/-- The key and the colon before a member's value. -/
def skipKey (bs : List UInt8) : Except Fault (List UInt8) :=
  match skipBlanks bs with
  | [] => .error (.ended .object)
  | b :: rest =>
    if b = '"'.toUInt8 then do
      let rest ← skipString rest.length rest
      match skipBlanks rest with
      | [] => .error (.ended .object)
      | c :: more =>
        if c = ':'.toUInt8 then .ok more else .error (.atNext .expectedColon (c :: more))
    else .error (.atNext .keyNotString (b :: rest))

/-- Passes over a value of any depth, with the open containers on a stack. Every step takes a byte,
so that as many steps as there are bytes suffice. -/
def skipValue : Nat → List Bracket → List UInt8 → Except Fault (List UInt8)
  | 0, _, _ => .error (.ended .value)
  | steps + 1, stack, bs => do
    let (opened, bs) ← skipStart bs
    let (stack, bs) ← match opened with
      | some bracket => closeContainers (bracket :: stack) false bs
      | none => closeContainers stack true bs
    match stack with
    | [] => .ok bs
    | .list :: _ => skipValue steps stack bs
    | .object :: _ => do
      let bs ← skipKey bs
      skipValue steps stack bs

/-- Passes over the value of a member that is not wanted. -/
def skip (bs : List UInt8) : Except Fault (Unit × List UInt8) := do
  let rest ← skipValue (bs.length + 1) [] bs
  .ok ((), rest)

/-! ## Fields -/

/-- What the next value is. Containers are not entered. -/
def found : Reader Found := fun bs =>
  match skipBlanks bs with
  | [] => .error (.ended .value)
  | b :: rest =>
    if b = '['.toUInt8 then .ok (.sequence, b :: rest)
    else if b = '{'.toUInt8 then .ok (.map, b :: rest)
    else do
      let (v, rest) ← value 0 (b :: rest)
      .ok (v.found, rest)

/-- A value that does not fit where it stands is a fault. -/
def fitting {α : Type} (read : Found → Except Mismatch α) : Reader α := fun bs => do
  let (f, rest) ← found bs
  match read f with
  | .ok a => .ok (a, rest)
  | .error m => .error (.misfit m rest)

def uint64 : Reader UInt64 := fitting (Found.toUInt64 .unsigned64)

def int64 : Reader Int64 := fitting Found.toInt64

def text : Reader String := fitting Found.toText

/-- A field that may be null. -/
def nullable {α : Type} (read : Reader α) : Reader (Option α) := fun bs =>
  match skipBlanks bs with
  | [] => .error (.ended .value)
  | b :: rest =>
    if b = 'n'.toUInt8 then do
      let ((), rest) ← word ['u'.toUInt8, 'l'.toUInt8, 'l'.toUInt8] rest
      .ok (none, rest)
    else do
      let (a, rest) ← read (b :: rest)
      .ok (some a, rest)

/-- The start of the next item of a list, or none at its closing bracket. -/
def nextItem (first : Bool) (bs : List UInt8) : Except Fault (Option (List UInt8)) :=
  match skipBlanks bs with
  | [] => .error (.ended .list)
  | b :: rest =>
    if b = ']'.toUInt8 then .ok none
    else if first then .ok (some (b :: rest))
    else if b = ','.toUInt8 then some <$> itemAfterComma rest
    else .error (.atNext .expectedListEnd (b :: rest))

/-- An item of a record written as a list, if the list goes on. -/
def item? {α : Type} (first : Bool) (read : Reader α) : Reader (Option α) := fun bs => do
  match ← nextItem first bs with
  | none => .ok (none, bs)
  | some start => do
    let (a, rest) ← read start
    .ok (some a, rest)

/-- The closing bracket of a record written as a list. -/
def endOfItems (bs : List UInt8) : Except Fault (List UInt8) :=
  match skipBlanks bs with
  | [] => .error (.ended .list)
  | b :: rest =>
    if b = ']'.toUInt8 then .ok rest
    else if b = ','.toUInt8 then
      match skipBlanks rest with
      | c :: more =>
        if c = ']'.toUInt8 then .error (.atNext .trailingComma (c :: more))
        else .error (.atNext .trailingCharacters (c :: more))
      | [] => .error (.atNext .trailingCharacters [])
    else .error (.atNext .trailingCharacters (b :: rest))

/-- A field that must not have been given before. -/
def once {α : Type} (name : String) (earlier : Option α) (read : Reader α) : Reader (Option α) :=
  fun bs =>
    match earlier with
    | some _ => .error (.misfit (.duplicateField name) bs)
    | none => do
      let (a, rest) ← read bs
      .ok (some a, rest)

/-- A record, written as the list of its fields or as an object. Inside it `depth - 1` more
containers may be opened. -/
def record {α δ : Type} (name : String) (items : Nat → Reader α) (empty : δ)
    (member : Nat → δ → String → Reader δ) (build : δ → Except Mismatch α) (depth : Nat) :
    Reader α := fun bs =>
  match skipBlanks bs with
  | [] => .error (.ended .value)
  | b :: rest =>
    if b = '['.toUInt8 then
      match depth with
      | 0 => .error (.atNext .recursionLimit (b :: rest))
      | inner + 1 => do
        let (a, rest) ← items inner rest
        let rest ← endOfItems rest
        .ok (a, rest)
    else if b = '{'.toUInt8 then
      match depth with
      | 0 => .error (.atNext .recursionLimit (b :: rest))
      | inner + 1 => do
        let (draft, rest) ← foldMembers (member inner) rest.length true empty rest
        match build draft with
        | .ok a => .ok (a, rest)
        | .error m => .error (.misfit m rest)
    else do
      let (f, rest) ← found (b :: rest)
      .error (.misfit (.kind f (.record name)) rest)

/-- A whole text that holds one record. -/
def document {α : Type} (read : Nat → Reader α) (text : List UInt8) : Except Fault α := do
  let (a, rest) ← read depthLimit text
  finish rest
  .ok a

end GattRpc.Json.Read
