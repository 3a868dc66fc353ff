import DeviceFleet.Wire.Encode
import DeviceFleet.Text.Decimal

/-!
# Reading messages

Fields merge into a message that starts at its defaults, unknown fields skipped by wire type;
a fault names the fields it happened in, innermost first.
-/

namespace DeviceFleet.Wire

/-- A reading fault: the fields it happened in (innermost first) and what went wrong. -/
structure DecodeError where
  stack : List (String × String)
  description : String
  deriving DecidableEq, Repr

def DecodeError.message (e : DecodeError) : String :=
  "failed to decode Protobuf message: " ++
    String.join (e.stack.map fun (m, f) => m ++ "." ++ f ++ ": ") ++ e.description

def DecodeError.within (m f : String) (e : DecodeError) : DecodeError :=
  { e with stack := e.stack ++ [(m, f)] }

/-- The bytes still to read, with their count. -/
structure Buf where
  rest : Bytes
  size : Nat

abbrev Dec := StateT Buf (Except DecodeError)

namespace Dec

def fail {α : Type} (description : String) : Dec α :=
  throw ⟨[], description⟩

def within {α : Type} (m f : String) (d : Dec α) : Dec α := fun b =>
  match d b with
  | .ok r => .ok r
  | .error e => .error (e.within m f)

def size : Dec Nat := do
  return (← get).size

def varintCounted : Dec Nat := do
  let b ← get
  match readVarint b.rest with
  | none => fail "invalid varint"
  | some (n, taken, rest) =>
    set (⟨rest, b.size - taken⟩ : Buf)
    return n

def take (n : Nat) : Dec Bytes := do
  let b ← get
  if n > b.size then fail "buffer underflow"
  else
    set (⟨b.rest.drop n, b.size - n⟩ : Buf)
    return b.rest.take n

/-- Read a key: field number and wire type. -/
def key : Dec (Nat × WireType) := do
  let k ← varintCounted
  if k > Nat.pow 2 32 - 1 then fail ("invalid key value: " ++ Text.natText k)
  else
    match WireType.ofCode? (k % 8) with
    | none => fail ("invalid wire type value: " ++ Text.natText (k % 8))
    | some w =>
      if k / 8 = 0 then fail "invalid tag value: 0" else pure (k / 8, w)

def expect (expected actual : WireType) : Dec Unit :=
  if expected = actual then pure ()
  else fail ("invalid wire type: " ++ actual.title ++ " (expected " ++ expected.title ++ ")")

def varintValue (w : WireType) : Dec Nat := do
  expect .varint w
  varintCounted

def bytesValue (w : WireType) : Dec Bytes := do
  expect .lengthDelimited w
  let n ← varintCounted
  take n

def textValue (w : WireType) : Dec String := do
  let bs ← bytesValue w
  match String.fromUTF8? ⟨bs.toArray⟩ with
  | some s => pure s
  | none => fail "invalid string value: data is not UTF-8 encoded"

def fixed64Value (w : WireType) : Dec Nat := do
  expect .fixed64 w
  let b ← get
  if b.size < 8 then fail "buffer underflow"
  else
    let bs ← take 8
    pure ((List.range 8).foldl (fun acc i => acc + (bs.getD i 0).toNat * Nat.pow 2 (8 * i)) 0)

/-- The length a field of a fixed-size or length-delimited wire type occupies after its
key; a varint is read and takes nothing more. -/
def valueLen (w : WireType) : Dec Nat :=
  match w with
  | .varint => do let _ ← varintCounted; pure 0
  | .fixed32 => pure 4
  | .fixed64 => pure 8
  | .lengthDelimited => varintCounted
  | _ => pure 0

mutual

/-- Skip a field the message does not know. `fuel` bounds the work by the bytes left and
`depth` counts the nesting still allowed. -/
def skipField : Nat → Nat → WireType → Nat → Dec Unit
  | 0, _, _, _ => fail "buffer underflow"
  | fuel + 1, depth, w, field =>
    if depth = 0 then fail "recursion limit reached"
    else
      match w with
      | .startGroup => skipGroup fuel (depth - 1) field
      | .endGroup => fail "unexpected end group tag"
      | _ => do
        let len ← valueLen w
        let _ ← take len
        pure ()

/-- Skip the fields of a group up to the end marker with its number. -/
def skipGroup : Nat → Nat → Nat → Dec Unit
  | 0, _, _ => fail "buffer underflow"
  | fuel + 1, depth, field => do
    let (inner, w) ← key
    match w with
    | .endGroup => if inner = field then pure () else fail "unexpected end group tag"
    | _ => do
      skipField fuel depth w inner
      skipGroup fuel depth field

end

def skip (depth : Nat) (w : WireType) (field : Nat) : Dec Unit := do
  let n ← size
  skipField (n + 2) depth w field

/-- Merge fields into a message while more than `limit` bytes are left. -/
def fields {α : Type} (step : α → Nat → WireType → Dec α) (limit : Nat) : Nat → α → Dec α
  | 0, x => pure x
  | fuel + 1, x => do
    if (← size) > limit then do
      let (f, w) ← key
      let x ← step x f w
      fields step limit fuel x
    else pure x

/-- Read a nested message: its length, then its fields, which must end exactly there. -/
def nested {α : Type} (depth : Nat) (step : Nat → α → Nat → WireType → Dec α) (w : WireType)
    (x : α) : Dec α := do
  expect .lengthDelimited w
  if depth = 0 then fail "recursion limit reached"
  else
    let len ← varintCounted
    let left ← size
    if len > left then fail "buffer underflow"
    else
      let limit := left - len
      let x ← fields (step (depth - 1)) limit (left + 1) x
      if (← size) ≠ limit then fail "delimited length exceeded" else pure x

/-- One channel field. -/
def channelField (depth : Nat) (c : Channel) (f : Nat) (w : WireType) : Dec Channel :=
  let text (name : String) (k : String → Channel) : Dec Channel :=
    within "DeviceChannel" name (do let s ← textValue w; pure (k s))
  match f with
  | 1 => within "DeviceChannel" "message_class" do
      let n ← varintValue w
      pure { c with messageClass := toSigned32 n }
  | 2 => text "tenant_id" fun s => { c with tenantId := s }
  | 3 => text "client_id" fun s => { c with clientId := s }
  | 4 => text "app_name" fun s => { c with appName := s }
  | 5 => text "app_version" fun s => { c with appVersion := s }
  | 6 => text "method" fun s => { c with method := s }
  | 7 => text "resource" fun s => { c with resource := c.resource ++ [s] }
  | 8 => text "requester" fun s => { c with requester := s }
  | 9 => text "request_id" fun s => { c with requestId := s }
  | 10 => text "username" fun s => { c with username := s }
  | 11 => text "client_ip" fun s => { c with clientIp := s }
  | 12 => text "connection_id" fun s => { c with connectionId := s }
  | 13 => within "DeviceChannel" "result_code" do
      let n ← varintValue w
      pure { c with resultCode := toUnsigned32 n }
  | 14 => text "error_code" fun s => { c with errorCode := s }
  | _ => do skip depth w f; pure c

/-- One metric field. -/
def metricField (depth : Nat) (m : Metric) (f : Nat) (w : WireType) : Dec Metric :=
  match f with
  | 1 => within "DeviceMetric" "name" do
      let s ← textValue w
      pure { m with name := s }
  | 2 => within "DeviceMetric" "kind" do
      let n ← varintValue w
      pure { m with kind := toSigned32 n }
  | 3 => within "DeviceMetric" "text_value" do
      let s ← textValue w
      pure { m with textValue := s }
  | 4 => within "DeviceMetric" "int_value" do
      let n ← varintValue w
      pure { m with intValue := toSigned64 n }
  | 5 => within "DeviceMetric" "double_value" do
      let n ← fixed64Value w
      pure { m with doubleBits := n.toUInt64 }
  | 6 => within "DeviceMetric" "bool_value" do
      let n ← varintValue w
      pure { m with boolValue := n != 0 }
  | 7 => within "DeviceMetric" "blob_value" do
      let bs ← bytesValue w
      pure { m with blobValue := bs }
  | _ => do skip depth w f; pure m

/-- One payload field. -/
def payloadField (depth : Nat) (p : Payload) (f : Nat) (w : WireType) : Dec Payload :=
  match f with
  | 1 => within "DevicePayload" "timestamp_ms" do
      let n ← varintValue w
      pure { p with timestampMs := toSigned64 n }
  | 2 => within "DevicePayload" "metrics" do
      let m ← nested depth metricField w {}
      pure { p with metrics := p.metrics ++ [m] }
  | 3 => within "DevicePayload" "body" do
      let bs ← bytesValue w
      pure { p with body := bs }
  | _ => do skip depth w f; pure p

/-- One envelope field. -/
def envelopeField (depth : Nat) (e : Envelope) (f : Nat) (w : WireType) : Dec Envelope :=
  match f with
  | 1 => within "DeviceEnvelope" "channel" do
      let c ← nested depth channelField w (e.channel.getD {})
      pure { e with channel := some c }
  | 2 => within "DeviceEnvelope" "payload" do
      let p ← nested depth payloadField w (e.payload.getD {})
      pure { e with payload := some p }
  | _ => do skip depth w f; pure e

end Dec

def decodeEnvelope (bs : Bytes) : Except DecodeError Envelope :=
  let n := bs.length
  (Dec.fields (Dec.envelopeField 100) 0 (n + 1) ({} : Envelope)).run' ⟨bs, n⟩

end DeviceFleet.Wire
