import DeviceFleet.Protocol.Message
import DeviceFleet.Protocol.Uuid

/-!
# The canonical model

What the server reasons about, independent of any device dialect: a request to a device's
application, the response it gives, the typed metrics both may carry, and the identifier that
ties a response to its request.
-/

namespace DeviceFleet

/-- A typed metric value. -/
inductive MetricValue where
  | text (s : String)
  /-- A 32-bit integer. -/
  | int (v : Int)
  /-- A 64-bit integer. -/
  | long (v : Int)
  /-- A binary64 value by its bits. -/
  | double (bits : UInt64)
  | bool (b : Bool)
  | bytes (bs : Bytes)
  deriving DecidableEq, Repr, Inhabited

namespace MetricValue

def asText? : MetricValue → Option String
  | .text s => some s
  | _ => none

end MetricValue

abbrev Metrics := List (String × MetricValue)

namespace Metrics

/-- Insert or replace a metric, keeping the names sorted; also tells whether the name was
already there. -/
def insert (name : String) (v : MetricValue) : Metrics → Metrics × Bool
  | [] => ([(name, v)], false)
  | (k, w) :: rest =>
    if name = k then ((name, v) :: rest, true)
    else if name < k then ((name, v) :: (k, w) :: rest, false)
    else
      let (rest', had) := insert name v rest
      ((k, w) :: rest', had)

def ofList (xs : List (String × MetricValue)) : Metrics :=
  xs.foldl (fun m kv => (insert kv.1 kv.2 m).1) []

end Metrics

def minInstant : Int := -8334601228800000

def maxInstant : Int := 8210266876799999

def instantInRange (ms : Int) : Bool :=
  decide (minInstant ≤ ms ∧ ms ≤ maxInstant)

/-- A request to an application on a device. -/
structure CanonicalRequest where
  tenantId : String
  deviceId : String
  appName : String
  appVersion : String := "1.0.0"
  method : Method
  resourcePath : List String := []
  body : Bytes := []
  metrics : Metrics := []
  capturedOn : Int
  requester : String := ""
  username : String := ""
  deriving DecidableEq, Repr

/-- The correlation and routing headers of a response. -/
structure CorrelationHeaders where
  requester : String := ""
  requestId : String := ""
  username : String := ""
  clientId : String := ""
  clientIp : String := ""
  connectionId : String := ""
  resultCode : Option Nat := none
  errorCode : Option String := none
  deriving DecidableEq, Repr

/-- A device's response. -/
structure CanonicalResponse where
  tenantId : String
  deviceId : String
  appName : String
  appVersion : String
  method : Option Method
  resourcePath : List String
  body : Bytes
  metrics : Metrics
  capturedOn : Int
  headers : CorrelationHeaders
  code : ResponseCode
  exceptionMessage : Option String
  deriving DecidableEq, Repr

namespace CanonicalResponse

def isAccepted (r : CanonicalResponse) : Bool :=
  r.code.isAccepted

def bodyText (r : CanonicalResponse) : String :=
  Text.lossyText r.body

end CanonicalResponse

/-- What ties a response to its request: the tenant, the device and the request's identifier. -/
structure CorrelationId where
  tenantId : String
  deviceId : String
  requestId : Uuid
  deriving DecidableEq, Repr, Inhabited

namespace CorrelationId

def text (c : CorrelationId) : String :=
  c.tenantId ++ "/" ++ c.deviceId ++ "/" ++ c.requestId.text

end CorrelationId

end DeviceFleet
