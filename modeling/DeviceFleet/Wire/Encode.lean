import DeviceFleet.Wire.Varint

/-!
# Writing messages

Fields in field-number order, each a key and its value; fields holding their default are left
out, except items of repeated fields and present parts.
-/

namespace DeviceFleet.Wire

/-- How a field's value is laid out. -/
inductive WireType where
  | varint
  | fixed64
  | lengthDelimited
  | startGroup
  | endGroup
  | fixed32
  deriving DecidableEq, Repr

namespace WireType

def code : WireType → Nat
  | .varint => 0
  | .fixed64 => 1
  | .lengthDelimited => 2
  | .startGroup => 3
  | .endGroup => 4
  | .fixed32 => 5

/-- The wire type a key's low bits name. -/
def ofCode? : Nat → Option WireType
  | 0 => some .varint
  | 1 => some .fixed64
  | 2 => some .lengthDelimited
  | 3 => some .startGroup
  | 4 => some .endGroup
  | 5 => some .fixed32
  | _ => none

def title : WireType → String
  | .varint => "Varint"
  | .fixed64 => "SixtyFourBit"
  | .lengthDelimited => "LengthDelimited"
  | .startGroup => "StartGroup"
  | .endGroup => "EndGroup"
  | .fixed32 => "ThirtyTwoBit"

end WireType

def key (field : Nat) (w : WireType) : Bytes :=
  varint (field * 8 + w.code)

def varintField (field : Nat) (n : Nat) : Bytes :=
  if n = 0 then [] else key field .varint ++ varint n

def signedField (field : Nat) (n : Int) : Bytes :=
  varintField field (ofSigned n)

def fixed64Bytes (n : Nat) : Bytes :=
  (List.range 8).map fun i => ((n / Nat.pow 2 (8 * i)) % 256).toUInt8

def isZeroDouble (bits : UInt64) : Bool :=
  bits.toNat % Nat.pow 2 63 = 0

def doubleField (field : Nat) (bits : UInt64) : Bytes :=
  if isZeroDouble bits then [] else key field .fixed64 ++ fixed64Bytes bits.toNat

/-- A length-delimited value: its length, then its bytes. -/
def delimited (field : Nat) (bs : Bytes) : Bytes :=
  key field .lengthDelimited ++ varint bs.length ++ bs

def bytesField (field : Nat) (bs : Bytes) : Bytes :=
  if bs.isEmpty then [] else delimited field bs

def textField (field : Nat) (s : String) : Bytes :=
  bytesField field s.toUTF8.toList

def channelBytes (c : Channel) : Bytes :=
  signedField 1 c.messageClass ++ textField 2 c.tenantId ++ textField 3 c.clientId ++
    textField 4 c.appName ++ textField 5 c.appVersion ++ textField 6 c.method ++
    c.resource.flatMap (fun r => delimited 7 r.toUTF8.toList) ++ textField 8 c.requester ++
    textField 9 c.requestId ++ textField 10 c.username ++ textField 11 c.clientIp ++
    textField 12 c.connectionId ++ varintField 13 c.resultCode ++ textField 14 c.errorCode

def metricBytes (m : Metric) : Bytes :=
  textField 1 m.name ++ signedField 2 m.kind ++ textField 3 m.textValue ++
    signedField 4 m.intValue ++ doubleField 5 m.doubleBits ++
    varintField 6 (if m.boolValue then 1 else 0) ++ bytesField 7 m.blobValue

def payloadBytes (p : Payload) : Bytes :=
  signedField 1 p.timestampMs ++ p.metrics.flatMap (fun m => delimited 2 (metricBytes m)) ++
    bytesField 3 p.body

def envelopeBytes (e : Envelope) : Bytes :=
  (match e.channel with
    | some c => delimited 1 (channelBytes c)
    | none => []) ++
  (match e.payload with
    | some p => delimited 2 (payloadBytes p)
    | none => [])

/-! ## Lengths without writing

The length of a message's bytes, computed from the lengths of its parts, so a large body
need not be copied to learn how long its envelope is. -/

def delimitedLen (field n : Nat) : Nat :=
  varintLen (field * 8 + 2) + varintLen n + n

def bytesFieldLen (field n : Nat) : Nat :=
  if n = 0 then 0 else delimitedLen field n

def varintFieldLen (field n : Nat) : Nat :=
  if n = 0 then 0 else varintLen (field * 8) + varintLen n

def textFieldLen (field : Nat) (s : String) : Nat :=
  bytesFieldLen field s.utf8ByteSize

def payloadLen (p : Payload) : Nat :=
  varintFieldLen 1 (ofSigned p.timestampMs) +
    (p.metrics.foldr (fun m n => delimitedLen 2 (metricBytes m).length + n) 0) +
    bytesFieldLen 3 p.body.length

def envelopeLen (e : Envelope) : Nat :=
  (match e.channel with
    | some c => delimitedLen 1 (channelBytes c).length
    | none => 0) +
  (match e.payload with
    | some p => delimitedLen 2 (payloadLen p)
    | none => 0)

end DeviceFleet.Wire
