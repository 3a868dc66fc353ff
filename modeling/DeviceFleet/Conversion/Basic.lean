import DeviceFleet.Protocol.Canonical

/-!
# Conversion between the canonical model and the device dialect

A converter turns one kind of message into another. A registry knows which pairs of kinds it
can convert; asking for another pair is an error naming both kinds.
-/

namespace DeviceFleet.Conversion

/-- Why a message could not be converted. -/
inductive ConversionError where
  /-- Routing or correlation headers are missing or malformed. -/
  | invalidChannel (reason : String)
  /-- Body, metrics or timestamp cannot be represented. -/
  | invalidPayload (reason : String)
  /-- No converter for the pair of message kinds. -/
  | notRegistered (source target : String)
  deriving DecidableEq, Repr

namespace ConversionError

def kind : ConversionError → String
  | .invalidChannel _ => "InvalidChannel"
  | .invalidPayload _ => "InvalidPayload"
  | .notRegistered _ _ => "NotRegistered"

def message : ConversionError → String
  | .invalidChannel r => "Invalid channel: " ++ r
  | .invalidPayload r => "Invalid payload: " ++ r
  | .notRegistered s t => "No translator registered for " ++ s ++ " -> " ++ t

end ConversionError

/-- The kinds of message converters work on. -/
inductive MessageKind where
  | correlatedRequest
  | envelope
  | canonicalRequest
  | canonicalResponse
  | correlationId
  deriving DecidableEq, Repr

namespace MessageKind

def path : MessageKind → String
  | .correlatedRequest => "devmgmt_server::translator::request::CorrelatedRequest"
  | .envelope => "devmgmt_shared::dialect::DeviceEnvelope"
  | .canonicalRequest => "devmgmt_shared::model::CanonicalRequest"
  | .canonicalResponse => "devmgmt_shared::model::CanonicalResponse"
  | .correlationId => "devmgmt_shared::model::CorrelationId"

end MessageKind

/-- The pairs of message kinds a registry can convert. -/
structure Registry where
  pairs : List (MessageKind × MessageKind)
  deriving DecidableEq, Repr

namespace Registry

def empty : Registry := ⟨[]⟩

/-- The device dialect in both directions: requests out, responses and their correlation in. -/
def defaults : Registry :=
  ⟨[(.correlatedRequest, .envelope), (.envelope, .canonicalResponse),
    (.envelope, .correlationId)]⟩

def supports (r : Registry) (s t : MessageKind) : Bool :=
  r.pairs.contains (s, t)

def check (r : Registry) (s t : MessageKind) : Except ConversionError Unit :=
  if r.supports s t then .ok () else .error (.notRegistered s.path t.path)

end Registry

/-- Device metrics of canonical metrics, in name order. -/
def encodeMetrics (ms : Metrics) : List Metric :=
  ms.map fun (name, v) =>
    match v with
    | .text s => { name, kind := MetricKind.text.code, textValue := s }
    | .int n => { name, kind := MetricKind.int32.code, intValue := n }
    | .long n => { name, kind := MetricKind.int64.code, intValue := n }
    | .double bits => { name, kind := MetricKind.double.code, doubleBits := bits }
    | .bool b => { name, kind := MetricKind.boolean.code, boolValue := b }
    | .bytes bs => { name, kind := MetricKind.blob.code, blobValue := bs }

/-- The canonical value of one device metric. -/
def metricValue (m : Metric) : Except ConversionError MetricValue :=
  let unknown := ConversionError.invalidPayload
    ("metric '" ++ m.name ++ "' has unknown kind " ++ Text.intText m.kind)
  match MetricKind.ofCode? m.kind with
  | some .text => .ok (.text m.textValue)
  | some .int32 =>
    if -2147483648 ≤ m.intValue ∧ m.intValue < 2147483648 then .ok (.int m.intValue)
    else .error (.invalidPayload ("metric '" ++ m.name ++ "' overflows int32"))
  | some .int64 => .ok (.long m.intValue)
  | some .double => .ok (.double m.doubleBits)
  | some .boolean => .ok (.bool m.boolValue)
  | some .blob => .ok (.bytes m.blobValue)
  | some .unspecified => .error unknown
  | none => .error unknown

def decodeMetrics (ms : List Metric) : Except ConversionError Metrics :=
  ms.foldlM (fun acc m => do
    let v ← metricValue m
    let (acc', had) := Metrics.insert m.name v acc
    if had then throw (.invalidPayload ("duplicate metric '" ++ m.name ++ "'")) else pure acc')
    []

end DeviceFleet.Conversion
