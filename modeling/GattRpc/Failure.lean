import GattRpc.Gatt

/-! # What can go wrong

The states of a connection, the errors of a link, the reasons for which a connection closes, and
the errors that a caller gets, each with its wording. -/

namespace GattRpc

/-- Identifies a request and its response. -/
abbrev RequestId := UInt64

inductive ConnectionState
  | disconnected
  | connecting
  | discovering
  | ready
  | closed
deriving DecidableEq, Repr

def ConnectionState.text : ConnectionState → String
  | disconnected => "disconnected"
  | connecting => "connecting"
  | discovering => "discovering-services"
  | ready => "ready"
  | closed => "closed"

inductive LinkError
  | notConnected
  | disconnected
  | serviceNotFound (uuid : Uuid)
  | characteristicNotFound (uuid : Uuid)
  | io (detail : String)
deriving DecidableEq, Repr

namespace LinkError

def message : LinkError → String
  | notConnected => "link not connected"
  | disconnected => "link disconnected by peer"
  | serviceNotFound uuid => s!"service {uuid.text} not found"
  | characteristicNotFound uuid => s!"characteristic {uuid.text} not found"
  | io detail => s!"link I/O error: {detail}"

/-- The link is gone, and no later operation can succeed. -/
def isFatal : LinkError → Bool
  | notConnected | disconnected => true
  | _ => false

end LinkError

inductive CloseReason
  | requested
  | linkLost
  | transportFailure (detail : String)
  | configuration (detail : String)
  | handleDropped
deriving DecidableEq, Repr

def CloseReason.message : CloseReason → String
  | requested => "closed by application"
  | linkLost => "link lost"
  | transportFailure detail => s!"transport failure: {detail}"
  | configuration detail => s!"configuration error: {detail}"
  | handleDropped => "client dropped"

inductive RpcError
  | notReady (state : ConnectionState)
  | transport (error : LinkError)
  | configuration (detail : String)
  | cancelled (reason : CloseReason)
  | timedOut (id : RequestId)
  | encode (detail : String)
  | shutdown
deriving DecidableEq, Repr

def RpcError.message : RpcError → String
  | notReady state => s!"connection not ready (state: {state.text})"
  | transport error => s!"transport error: {error.message}"
  | configuration detail => s!"configuration error: {detail}"
  | cancelled reason => s!"request cancelled: {reason.message}"
  | timedOut id => s!"request {id.toNat} timed out"
  | encode detail => s!"encode error: {detail}"
  | shutdown => "connection task shut down"

end GattRpc
