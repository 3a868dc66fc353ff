import DeviceFleet.Bench.Envelope
import DeviceFleet.Conversion.Request
import DeviceFleet.Conversion.Response

/-!
# The bench: canonical messages and conversion

Canonical metric values are written `{"type": t, "value": v}`; a double gives its bits
(`"bits"`) and bytes their hexadecimal form (`"hex"`).
-/

namespace DeviceFleet.Bench

open Conversion

def metricValueOfJson (j : Json) : Reads MetricValue :=
  match j.strOr "type" "" with
  | "string" => .ok (.text (j.strOr "value" ""))
  | "int" => .ok (.int (j.intOr "value" 0))
  | "long" => .ok (.long (j.intOr "value" 0))
  | "double" =>
    match j.field? "bits", j.field? "value" with
    | some (.str s), _ =>
      match Text.wordOfHex? s with
      | some w => .ok (.double w)
      | none => .error (badInput "bad double bits")
    | _, some v =>
      match doubleOfJson v with
      | some w => .ok (.double w)
      | none => .error (badInput "bad double value")
    | _, _ => .error (badInput "double without value")
  | "bool" => .ok (.bool (j.boolOr "value" false))
  | "bytes" => (hexMember j "hex").map MetricValue.bytes
  | _ => .error (badInput "unknown metric type")

def metricValueJson : MetricValue → Json
  | .text s => .obj [("type", .str "string"), ("value", .str s)]
  | .int n => .obj [("type", .str "int"), ("value", .int n)]
  | .long n => .obj [("type", .str "long"), ("value", .int n)]
  | .double bits => .obj [("type", .str "double"), ("bits", .str (Text.wordHex bits))]
  | .bool b => .obj [("type", .str "bool"), ("value", .bool b)]
  | .bytes bs => .obj [("type", .str "bytes"), ("hex", .str (Text.hexOfBytes bs))]

def metricsOfJson (j : Json) : Reads Metrics := do
  let fields := (j.obj?).getD []
  let items ← fields.mapM fun (kv : String × Json) => do
    let v ← metricValueOfJson kv.2
    pure (kv.1, v)
  pure (Metrics.ofList items)

def metricsJson (ms : Metrics) : Json :=
  .obj (ms.map fun (kv : String × MetricValue) => (kv.1, metricValueJson kv.2))

def defaultCapturedOn : Int := 1483228800000

def requestOfJson (j : Json) : Reads CanonicalRequest := do
  let method ← match Method.normalize (j.strOr "method" "") with
    | .ok m => pure m
    | .error e => throw (failure "UnknownMethod" e.message)
  let body ← match j.field? "body" with
    | some (.str s) => pure s.toUTF8.toList
    | _ => hexMember j "body_hex"
  let metrics ← metricsOfJson ((j.field? "metrics").getD (.obj []))
  pure { tenantId := j.strOr "tenant_id" ""
         deviceId := j.strOr "device_id" ""
         appName := j.strOr "app_name" ""
         appVersion := j.strOr "app_version" "1.0.0"
         method
         resourcePath := j.strsOr "resource_path"
         body
         metrics
         capturedOn := j.intOr "captured_on_ms" defaultCapturedOn
         requester := j.strOr "requester" ""
         username := j.strOr "username" "" }

def uuidOfJson (j : Json) (key : String) (dflt : Uuid) : Reads Uuid :=
  match j.field? key with
  | some (.str s) =>
    match Uuid.parse s with
    | .ok u => .ok u
    | .error e => .error (badInput e.message)
  | _ => .ok dflt

def correlationOfJson (j : Json) : Reads CorrelationId := do
  let u ← uuidOfJson j "request_id" Uuid.nil
  pure ⟨j.strOr "tenant_id" "", j.strOr "device_id" "", u⟩

def correlationJson (c : CorrelationId) : Json :=
  .obj [("tenant_id", .str c.tenantId), ("device_id", .str c.deviceId),
    ("request_id", .str c.requestId.text), ("display", .str c.text)]

def headersJson (h : CorrelationHeaders) : Json :=
  .obj [("requester", .str h.requester), ("request_id", .str h.requestId),
    ("username", .str h.username), ("client_id", .str h.clientId),
    ("client_ip", .str h.clientIp), ("connection_id", .str h.connectionId),
    ("result_code", Json.optInt (h.resultCode.map Int.ofNat)),
    ("error_code", Json.optStr h.errorCode)]

def responseJson (r : CanonicalResponse) : Json :=
  .obj [("tenant_id", .str r.tenantId), ("device_id", .str r.deviceId),
    ("app_name", .str r.appName), ("app_version", .str r.appVersion),
    ("method", Json.optStr (r.method.map Method.name)),
    ("resource_path", Json.strs r.resourcePath), ("body", .str (Text.hexOfBytes r.body)),
    ("metrics", metricsJson r.metrics), ("captured_on", .int r.capturedOn),
    ("headers", headersJson r.headers), ("code", .str r.code.name),
    ("exception_message", Json.optStr r.exceptionMessage)]

def conversionFailure (e : ConversionError) : Json :=
  failure e.kind e.message

def convertRequestReport (input : Json) : Json :=
  let go : Reads Json := do
    let r ← requestOfJson ((input.field? "request").getD (.obj []))
    let cid ← match input.field? "correlation" with
      | some c => correlationOfJson c
      | none => pure ⟨r.tenantId, r.deviceId, Uuid.nil⟩
    match convertRequest ⟨cid, r⟩ with
    | .error e => pure (conversionFailure e)
    | .ok env =>
      let topic := match env.channel with
        | some c => (Topic.request c).text
        | none => ""
      let frame := match Wire.encodeFrame env with
        | .ok bs => Json.str (Text.hexOfBytes bs)
        | .error e => frameFailure e []
      pure (.obj [("envelope", envelopeJson env), ("topic", .str topic), ("frame", frame)])
  match go with
  | .ok j => j
  | .error j => j

def convertResponseReport (now : Int) (input : Json) : Json :=
  match envelopeMember input "envelope" with
  | .error j => j
  | .ok env =>
    match convertResponse now env with
    | .error e => conversionFailure e
    | .ok r =>
      .obj [("response", responseJson r), ("accepted", .bool r.isAccepted),
        ("body_text", .str r.bodyText)]

def convertCorrelationReport (input : Json) : Json :=
  match envelopeMember input "envelope" with
  | .error j => j
  | .ok env =>
    match convertCorrelation env with
    | .error e => conversionFailure e
    | .ok c => correlationJson c

def unregisteredReport (input : Json) : Json :=
  let res := match input.strOr "pair" "" with
    | "empty_registry" => Registry.empty.check .envelope .canonicalResponse
    | _ => Registry.defaults.check .canonicalResponse .canonicalRequest
  match res with
  | .error e => conversionFailure e
  | .ok () => .null

end DeviceFleet.Bench
