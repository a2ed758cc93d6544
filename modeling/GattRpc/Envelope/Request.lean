import GattRpc.Failure
import GattRpc.Json.TypedReader

/-! # Requests

The envelope of a call: protocol version, id, method and parameters. It is written in that order
and read from any document that has an id and a method. -/

namespace GattRpc

/-- The protocol version that envelopes carry. -/
def protocolVersion : String := "2.0"

structure Request where
  jsonrpc : String
  id : RequestId
  method : String
  params : Json
deriving DecidableEq

namespace Request

/-- A request of the current version. Null parameters stand for none. -/
def new (id : RequestId) (method : String) (params : Json) : Request :=
  ⟨protocolVersion, id, method, if params.isNull then .object [] else params⟩

/-- The members in the order in which they are written. -/
def document (r : Request) : Json :=
  .object [("jsonrpc", .string r.jsonrpc), ("id", .ofUInt64 r.id), ("method", .string r.method),
    ("params", r.params)]

/-- Reads a request from a value. Of several faults the one in the least key counts, a missing
field last. -/
def fromJson : Json → Except Mismatch Request
  | .object members => do
    let id ← Json.field? members "id" Json.toUInt64
    let jsonrpc ← Json.field? members "jsonrpc" Json.toText
    let method ← Json.field? members "method" Json.toText
    let params ← Json.field? members "params" .ok
    let some id := id | .error (.missingField "id")
    let some method := method | .error (.missingField "method")
    .ok ⟨jsonrpc.getD protocolVersion, id, method, params.getD (.object [])⟩
  | .array items => do
    let jsonrpc ← Json.item? items 0 Json.toText
    let some id ← Json.item? items 1 Json.toUInt64 | .error (.tooFew 1 "Request" 4)
    let some method ← Json.item? items 2 Json.toText | .error (.tooFew 2 "Request" 4)
    let params ← Json.item? items 3 .ok
    Json.noMoreThan 4 items
    .ok ⟨jsonrpc.getD protocolVersion, id, method, params.getD (.object [])⟩
  | v => .error (.kind v.found (.record "Request"))

/-- The fields that a document has given so far. -/
structure Draft where
  jsonrpc : Option String := none
  id : Option RequestId := none
  method : Option String := none
  params : Option Json := none

def Draft.build (d : Draft) : Except Mismatch Request :=
  match d.id, d.method with
  | none, _ => .error (.missingField "id")
  | some _, none => .error (.missingField "method")
  | some id, some method =>
    .ok ⟨d.jsonrpc.getD protocolVersion, id, method, d.params.getD (.object [])⟩

open Json

def readMember (depth : Nat) (d : Draft) (name : String) : Read.Reader Draft := fun bs =>
  match name with
  | "jsonrpc" => do
    let (v, rest) ← Read.once name d.jsonrpc Read.text bs
    .ok ({ d with jsonrpc := v }, rest)
  | "id" => do
    let (v, rest) ← Read.once name d.id Read.uint64 bs
    .ok ({ d with id := v }, rest)
  | "method" => do
    let (v, rest) ← Read.once name d.method Read.text bs
    .ok ({ d with method := v }, rest)
  | "params" => do
    let (v, rest) ← Read.once name d.params (Read.value depth) bs
    .ok ({ d with params := v }, rest)
  | _ => do
    let ((), rest) ← Read.skip bs
    .ok (d, rest)

def readItems (depth : Nat) : Read.Reader Request := fun bs => do
  let (jsonrpc, rest) ← Read.item? true Read.text bs
  let (id, rest) ← Read.item? false Read.uint64 rest
  let some id := id | .error (.misfit (.tooFew 1 "Request" 4) rest)
  let (method, rest) ← Read.item? false Read.text rest
  let some method := method | .error (.misfit (.tooFew 2 "Request" 4) rest)
  let (params, rest) ← Read.item? false (Read.value depth) rest
  .ok (⟨jsonrpc.getD protocolVersion, id, method, params.getD (.object [])⟩, rest)

/-- Reads a request straight from text. -/
def parse (text : List UInt8) : Except Json.Fault Request :=
  Read.document (Read.record "Request" readItems {} readMember Draft.build) text

end Request

end GattRpc
