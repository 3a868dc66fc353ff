import DeviceFleet.Bench.Envelope

/-!
# The bench: topics, envelopes and frames

-/

namespace DeviceFleet.Bench

open Wire

def topicReport (input : Json) : Json :=
  .obj [("topic", match Topic.parse? (input.strOr "raw" "") with
    | some t => topicJson t
    | none => .null)]

def channelTopicsReport (input : Json) : Json :=
  let c := channelOfJson ((input.field? "channel").getD (.obj []))
  let code := (input.intOr "result_code" 200).toNat
  .obj [("request", topicJson (Topic.request c)), ("reply", topicJson (Topic.reply c)),
    ("reply_channel", channelJson (c.replyTo code))]

def envelopeClassReport (input : Json) : Json :=
  match envelopeMember input "envelope" with
  | .error j => j
  | .ok e =>
    .obj [("class", .str e.messageClass.name), ("encoded_len", .int (envelopeLen e))]

def frameEncodeReport (input : Json) : Json :=
  match envelopeMember input "envelope" with
  | .error j => j
  | .ok e =>
    if input.boolOr "show" true then
      match encodeFrame e with
      | .ok bs => .obj [("len", .int bs.length), ("frame", .str (Text.hexOfBytes bs))]
      | .error err => frameFailure err []
    else
      match frameLen e with
      | .ok n => .obj [("len", .int n), ("frame", .null)]
      | .error err => frameFailure err []

def frameDecodeReport (input : Json) : Json :=
  match Text.bytesOfHex? (input.strOr "hex" "") with
  | none => badInput "bad hex"
  | some buf =>
    let (res, rest) := decodeFrame buf
    let remaining := ("remaining", Json.str (Text.hexOfBytes rest))
    match res with
    | .ok (some e) => .obj [("envelope", envelopeJson e), remaining]
    | .ok none => .obj [("envelope", .null), remaining]
    | .error err => frameFailure err [remaining]

def frameReadReport (input : Json) : Json :=
  let chunks := ((input.field? "chunks").bind Json.arr?).getD []
  let step := fun (acc : List Json × FrameReader) (chunk : Json) =>
    let (out, r) := acc
    let data := (Text.bytesOfHex? (chunk.str?.getD "")).getD []
    let (es, err, r') := (r.extend data).drainAll
    let report := Json.obj [("envelopes", .arr (es.map envelopeJson)),
      ("error", match err with
        | some e => frameFailure e []
        | none => .null),
      ("buffered", .int r'.buffer.length)]
    (out ++ [report], r')
  .arr (chunks.foldl step ([], {})).1

end DeviceFleet.Bench
