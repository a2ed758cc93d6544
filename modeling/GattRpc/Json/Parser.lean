import GattRpc.Json.Scanner

/-! # Reading JSON text

A text is one value with blanks around it. At most 127 containers may be open at once. Of several
members with one key the last one counts. -/

namespace GattRpc.Json

namespace Read

/-- How many containers may be open at once. -/
def depthLimit : Nat := 127

/-- A value, inside which `depth` more containers may be opened. -/
def value : Nat → Reader Json
  | depth, bs =>
    match skipBlanks bs with
    | [] => .error (.ended .value)
    | b :: rest =>
      if b = 'n'.toUInt8 then do
        let ((), rest) ← word ['u'.toUInt8, 'l'.toUInt8, 'l'.toUInt8] rest
        .ok (.null, rest)
      else if b = 't'.toUInt8 then do
        let ((), rest) ← word ['r'.toUInt8, 'u'.toUInt8, 'e'.toUInt8] rest
        .ok (.boolean true, rest)
      else if b = 'f'.toUInt8 then do
        let ((), rest) ← word ['a'.toUInt8, 'l'.toUInt8, 's'.toUInt8, 'e'.toUInt8] rest
        .ok (.boolean false, rest)
      else if b = '-'.toUInt8 then do
        let (n, rest) ← number true rest
        .ok (.number n, rest)
      else if isDigit b then do
        let (n, rest) ← number false (b :: rest)
        .ok (.number n, rest)
      else if b = '"'.toUInt8 then do
        let (s, rest) ← string rest
        .ok (.string s, rest)
      else if b = '['.toUInt8 then
        match depth with
        | 0 => .error (.atNext .recursionLimit (b :: rest))
        | inner + 1 => do
          let step := fun (items : List Json) bs => do
            let (v, rest) ← value inner bs
            .ok (v :: items, rest)
          let (items, rest) ← foldItems step rest.length true [] rest
          .ok (.array items.reverse, rest)
      else if b = '{'.toUInt8 then
        match depth with
        | 0 => .error (.atNext .recursionLimit (b :: rest))
        | inner + 1 => do
          let step := fun (members : List (String × Json)) k bs => do
            let (v, rest) ← value inner bs
            .ok (insertMember k v members, rest)
          let (members, rest) ← foldMembers step rest.length true [] rest
          .ok (.object members, rest)
      else .error (.atNext .expectedValue (b :: rest))

end Read

/-- The value that a whole text holds. -/
def parse (text : List UInt8) : Except Fault Json := do
  let (v, rest) ← Read.value Read.depthLimit text
  Read.finish rest
  .ok v

end GattRpc.Json
