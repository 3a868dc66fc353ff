import DeviceFleet.Bench.Basic
import DeviceFleet.Wire.Frame
import DeviceFleet.Text.Decimal

/-!
# The bench: envelopes as JSON

Envelopes and their parts are written with every field, bytes in lowercase hexadecimal and
doubles by their bits; when read, missing fields take their defaults.
-/

namespace DeviceFleet.Bench

open Wire

abbrev Reads := Except Json

def hexMember (j : Json) (key : String) : Reads Bytes :=
  match j.field? key with
  | none | some .null => .ok []
  | some (.str s) =>
    match Text.bytesOfHex? s with
    | some bs => .ok bs
    | none => .error (badInput ("bad hex in " ++ key))
  | some _ => .error (badInput ("bad hex in " ++ key))

def doubleOfJson : Json → Option UInt64
  | .double bits => some bits
  | .int n => Text.binary64OfDecimal (n < 0) n.natAbs 0
  | _ => none

def channelOfJson (j : Json) : Channel :=
  { messageClass := j.intOr "message_class" 0
    tenantId := j.strOr "tenant_id" ""
    clientId := j.strOr "client_id" ""
    appName := j.strOr "app_name" ""
    appVersion := j.strOr "app_version" ""
    method := j.strOr "method" ""
    resource := j.strsOr "resource"
    requester := j.strOr "requester" ""
    requestId := j.strOr "request_id" ""
    username := j.strOr "username" ""
    clientIp := j.strOr "client_ip" ""
    connectionId := j.strOr "connection_id" ""
    resultCode := (j.intOr "result_code" 0).toNat
    errorCode := j.strOr "error_code" "" }

def metricOfJson (j : Json) : Reads Metric := do
  let blob ← match j.field? "blob_text" with
    | some (.str s) => pure s.toUTF8.toList
    | _ => hexMember j "blob_value"
  let bits ← match j.field? "double_bits", j.field? "double_value" with
    | some (.str s), _ =>
      match Text.wordOfHex? s with
      | some w => pure w
      | none => throw (badInput "bad double_bits")
    | _, some v =>
      match doubleOfJson v with
      | some w => pure w
      | none => throw (badInput "bad double_value")
    | _, _ => pure 0
  pure { name := j.strOr "name" ""
         kind := j.intOr "kind" 0
         textValue := j.strOr "text_value" ""
         intValue := j.intOr "int_value" 0
         doubleBits := bits
         boolValue := j.boolOr "bool_value" false
         blobValue := blob }

def payloadOfJson (j : Json) : Reads Payload := do
  let body ← match j.field? "body_text", j.field? "body_fill" with
    | some (.str s), _ => pure s.toUTF8.toList
    | _, some fill =>
      pure (List.replicate (fill.intOr "len" 0).toNat (fill.intOr "byte" 0).toNat.toUInt8)
    | _, _ => hexMember j "body"
  let metrics ← (((j.field? "metrics").bind Json.arr?).getD []).mapM metricOfJson
  pure { timestampMs := j.intOr "timestamp_ms" 0, metrics, body }

def envelopeOfJson (j : Json) : Reads Envelope := do
  match j.field? "hex" with
  | some (.str s) =>
    match Text.bytesOfHex? s with
    | none => throw (badInput "bad hex envelope")
    | some bs =>
      match decodeEnvelope bs with
      | .ok e => pure e
      | .error err => throw (failure "DecodeError" err.message)
  | _ =>
    let channel := match j.field? "channel" with
      | none | some .null => none
      | some c => some (channelOfJson c)
    let payload ← match j.field? "payload" with
      | none | some .null => pure none
      | some p => some <$> payloadOfJson p
    pure { channel, payload }

def envelopeMember (input : Json) (key : String) : Reads Envelope :=
  envelopeOfJson ((input.field? key).getD (.obj []))

def channelJson (c : Channel) : Json :=
  .obj [("message_class", .int c.messageClass), ("tenant_id", .str c.tenantId),
    ("client_id", .str c.clientId), ("app_name", .str c.appName),
    ("app_version", .str c.appVersion), ("method", .str c.method),
    ("resource", Json.strs c.resource), ("requester", .str c.requester),
    ("request_id", .str c.requestId), ("username", .str c.username),
    ("client_ip", .str c.clientIp), ("connection_id", .str c.connectionId),
    ("result_code", .int c.resultCode), ("error_code", .str c.errorCode)]

def metricJson (m : Metric) : Json :=
  .obj [("name", .str m.name), ("kind", .int m.kind), ("text_value", .str m.textValue),
    ("int_value", .int m.intValue), ("double_bits", .str (Text.wordHex m.doubleBits)),
    ("bool_value", .bool m.boolValue), ("blob_value", .str (Text.hexOfBytes m.blobValue))]

def payloadJson (p : Payload) : Json :=
  .obj [("timestamp_ms", .int p.timestampMs), ("metrics", .arr (p.metrics.map metricJson)),
    ("body", .str (Text.hexOfBytes p.body))]

def envelopeJson (e : Envelope) : Json :=
  .obj [("channel", match e.channel with
      | some c => channelJson c
      | none => .null),
    ("payload", match e.payload with
      | some p => payloadJson p
      | none => .null)]

def topicJson (t : Topic) : Json :=
  .obj [("tenant_id", .str t.tenantId), ("client_id", .str t.clientId),
    ("app_name", .str t.appName), ("direction", .str t.direction.word),
    ("display", .str t.text)]

def frameFailure (e : FrameError) (more : List (String × Json)) : Json :=
  failureWith e.kind e.message more

end DeviceFleet.Bench
