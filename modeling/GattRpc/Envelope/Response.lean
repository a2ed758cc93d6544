import GattRpc.Envelope.Request

/-! # Responses

The envelope of an answer: protocol version, id, status code, and a result or an error object. The
status code of a document without one comes from its error object. -/

namespace GattRpc

structure ErrorObject where
  code : Option Int64
  message : String
deriving DecidableEq

structure Response where
  jsonrpc : String
  id : RequestId
  code : Int64
  result : Option Json
  error : Option ErrorObject
deriving DecidableEq

/-- The code of an error that names none. -/
def unspecifiedErrorCode : Int64 := -1

/-- What a caller gets for a response with a code other than zero. -/
structure RemoteError where
  code : Int64
  message : String
deriving DecidableEq

def RemoteError.text (e : RemoteError) : String :=
  s!"remote error {e.code.toInt}: {e.message}"

/-- A member that is left out when there is nothing to write. -/
def optionalMember {α : Type} (name : String) (write : α → Json) : Option α → List (String × Json)
  | none => []
  | some a => [(name, write a)]

namespace ErrorObject

/-- The members in the order in which they are written. -/
def document (e : ErrorObject) : Json :=
  .object (optionalMember "code" Json.ofInt64 e.code ++ [("message", .string e.message)])

def fromJson : Json → Except Mismatch ErrorObject
  | .object members => do
    let code ← Json.field? members "code" (Json.toOption Json.toInt64)
    let message ← Json.field? members "message" Json.toText
    .ok ⟨code.join, message.getD ""⟩
  | .array items => do
    let code ← Json.item? items 0 (Json.toOption Json.toInt64)
    let message ← Json.item? items 1 Json.toText
    Json.noMoreThan 2 items
    .ok ⟨code.join, message.getD ""⟩
  | v => .error (.kind v.found (.record "ErrorObject"))

/-- The fields that a document has given so far. -/
structure Draft where
  code : Option (Option Int64) := none
  message : Option String := none

def Draft.build (d : Draft) : Except Mismatch ErrorObject :=
  .ok ⟨d.code.join, d.message.getD ""⟩

open Json

def readMember (_depth : Nat) (d : Draft) (name : String) : Read.Reader Draft := fun bs =>
  match name with
  | "code" => do
    let (v, rest) ← Read.once name d.code (Read.nullable Read.int64) bs
    .ok ({ d with code := v }, rest)
  | "message" => do
    let (v, rest) ← Read.once name d.message Read.text bs
    .ok ({ d with message := v }, rest)
  | _ => do
    let ((), rest) ← Read.skip bs
    .ok (d, rest)

def readItems (_depth : Nat) : Read.Reader ErrorObject := fun bs => do
  let (code, rest) ← Read.item? true (Read.nullable Read.int64) bs
  let (message, rest) ← Read.item? false Read.text rest
  .ok (⟨code.join, message.getD ""⟩, rest)

/-- Reads an error object inside which `depth - 1` more containers may be opened. -/
def read (depth : Nat) : Read.Reader ErrorObject :=
  Read.record "ErrorObject" readItems {} readMember Draft.build depth

/-- Reads an error object straight from text. -/
def parse (text : List UInt8) : Except Json.Fault ErrorObject := Read.document read text

end ErrorObject

namespace Response

/-- A successful response. -/
def success (id : RequestId) (result : Json) : Response :=
  ⟨protocolVersion, id, 0, some result, none⟩

/-- A failed response, with the code in the envelope and in the error object. -/
def failure (id : RequestId) (code : Int64) (message : String) : Response :=
  ⟨protocolVersion, id, code, none, some ⟨some code, message⟩⟩

def isSuccess (r : Response) : Bool := r.code = 0

/-- The result, null if there is none, or the error that the response reports. -/
def toResult (r : Response) : Except RemoteError Json :=
  if r.isSuccess then .ok (r.result.getD .null)
  else .error ⟨r.code, (r.error.map ErrorObject.message).getD ""⟩

/-- The members in the order in which they are written. -/
def document (r : Response) : Json :=
  .object ([("jsonrpc", .string r.jsonrpc), ("id", .ofUInt64 r.id), ("code", .ofInt64 r.code)]
    ++ optionalMember "result" (fun v => v) r.result
    ++ optionalMember "error" ErrorObject.document r.error)

/-- The status code of an envelope: its own, or its error object's, or a default. -/
def resolveCode (code : Option Int64) (error : Option ErrorObject) : Int64 :=
  match code, error with
  | some code, _ => code
  | none, some error => error.code.getD unspecifiedErrorCode
  | none, none => 0

/-- A response from the fields of its envelope. -/
def ofFields (jsonrpc : Option String) (id : RequestId) (code : Option (Option Int64))
    (result : Option (Option Json)) (error : Option (Option ErrorObject)) : Response :=
  ⟨jsonrpc.getD protocolVersion, id, resolveCode code.join error.join, result.join, error.join⟩

/-- Reads a response from a value. Of several faults the one in the least key counts, a missing
field last. -/
def fromJson : Json → Except Mismatch Response
  | .object members => do
    let code ← Json.field? members "code" (Json.toOption Json.toInt64)
    let error ← Json.field? members "error" (Json.toOption ErrorObject.fromJson)
    let id ← Json.field? members "id" Json.toUInt64
    let jsonrpc ← Json.field? members "jsonrpc" Json.toText
    let result ← Json.field? members "result" (Json.toOption .ok)
    let some id := id | .error (.missingField "id")
    .ok (ofFields jsonrpc id code result error)
  | .array items => do
    let jsonrpc ← Json.item? items 0 Json.toText
    let some id ← Json.item? items 1 Json.toUInt64 | .error (.tooFew 1 "ResponseEnvelope" 5)
    let code ← Json.item? items 2 (Json.toOption Json.toInt64)
    let result ← Json.item? items 3 (Json.toOption .ok)
    let error ← Json.item? items 4 (Json.toOption ErrorObject.fromJson)
    Json.noMoreThan 5 items
    .ok (ofFields jsonrpc id code result error)
  | v => .error (.kind v.found (.record "ResponseEnvelope"))

/-- The fields that a document has given so far. -/
structure Draft where
  jsonrpc : Option String := none
  id : Option RequestId := none
  code : Option (Option Int64) := none
  result : Option (Option Json) := none
  error : Option (Option ErrorObject) := none

def Draft.build (d : Draft) : Except Mismatch Response :=
  match d.id with
  | none => .error (.missingField "id")
  | some id => .ok (ofFields d.jsonrpc id d.code d.result d.error)

open Json

def readMember (depth : Nat) (d : Draft) (name : String) : Read.Reader Draft := fun bs =>
  match name with
  | "jsonrpc" => do
    let (v, rest) ← Read.once name d.jsonrpc Read.text bs
    .ok ({ d with jsonrpc := v }, rest)
  | "id" => do
    let (v, rest) ← Read.once name d.id Read.uint64 bs
    .ok ({ d with id := v }, rest)
  | "code" => do
    let (v, rest) ← Read.once name d.code (Read.nullable Read.int64) bs
    .ok ({ d with code := v }, rest)
  | "result" => do
    let (v, rest) ← Read.once name d.result (Read.nullable (Read.value depth)) bs
    .ok ({ d with result := v }, rest)
  | "error" => do
    let (v, rest) ← Read.once name d.error (Read.nullable (ErrorObject.read depth)) bs
    .ok ({ d with error := v }, rest)
  | _ => do
    let ((), rest) ← Read.skip bs
    .ok (d, rest)

def readItems (depth : Nat) : Read.Reader Response := fun bs => do
  let (jsonrpc, rest) ← Read.item? true Read.text bs
  let (id, rest) ← Read.item? false Read.uint64 rest
  let some id := id | .error (.misfit (.tooFew 1 "ResponseEnvelope" 5) rest)
  let (code, rest) ← Read.item? false (Read.nullable Read.int64) rest
  let (result, rest) ← Read.item? false (Read.nullable (Read.value depth)) rest
  let (error, rest) ← Read.item? false (Read.nullable (ErrorObject.read depth)) rest
  .ok (ofFields jsonrpc id code result error, rest)

/-- Reads a response straight from text. -/
def parse (text : List UInt8) : Except Json.Fault Response :=
  Read.document (Read.record "ResponseEnvelope" readItems {} readMember Draft.build) text

end Response

end GattRpc
