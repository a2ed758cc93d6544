import GattRpc.Envelope.Response

/-! # Messages from the peripheral

A message with an id that is not null is a response, if it reads as one. Without such an id it is a
notification when it names a method. Anything else is not recognized. -/

namespace GattRpc

inductive Inbound
  | response (r : Response)
  | notification (method : String) (params : Json)
  | unrecognized (v : Json)
deriving DecidableEq

namespace Inbound

/-- The value has an id other than null. -/
def hasId (v : Json) : Bool :=
  match v.get? "id" with
  | none => false
  | some id => !id.isNull

def classify (v : Json) : Inbound :=
  if hasId v then
    match Response.fromJson v with
    | .ok r => .response r
    | .error _ => .unrecognized v
  else match (v.get? "method").bind Json.string? with
    | some method => .notification method ((v.get? "params").getD .null)
    | none => .unrecognized v

end Inbound

end GattRpc
