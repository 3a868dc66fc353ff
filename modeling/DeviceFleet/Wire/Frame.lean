import DeviceFleet.Wire.Decode

/-!
# Frames

An envelope travels as its length in four big-endian bytes and its bytes, at most
`maxFrameSize`; reading takes one whole frame off a buffer, or nothing.
-/

namespace DeviceFleet.Wire

def maxFrameSize : Nat := 10 * 1024 * 1024

/-- What can go wrong with a frame. -/
inductive FrameError where
  /-- An envelope too long to be framed, with its length. -/
  | envelopeTooLarge (len : Nat)
  /-- A length prefix above the largest frame. -/
  | invalidLength (len : Nat)
  /-- A frame whose bytes are no envelope. -/
  | decode (e : DecodeError)
  deriving DecidableEq, Repr

namespace FrameError

def kind : FrameError → String
  | .envelopeTooLarge _ => "EnvelopeTooLarge"
  | .invalidLength _ => "InvalidLength"
  | .decode _ => "Decode"

def message : FrameError → String
  | .envelopeTooLarge len =>
    "Envelope too large: " ++ Text.natText len ++ " bytes (max: " ++ Text.natText maxFrameSize ++ ")"
  | .invalidLength len => "Invalid frame length prefix: " ++ Text.natText len
  | .decode e => "Protobuf decode error: " ++ e.message

end FrameError

def lengthPrefix (n : Nat) : Bytes :=
  [(n / Nat.pow 2 24 % 256).toUInt8, (n / Nat.pow 2 16 % 256).toUInt8, (n / Nat.pow 2 8 % 256).toUInt8,
    (n % 256).toUInt8]

def prefixValue (a b c d : UInt8) : Nat :=
  a.toNat * Nat.pow 2 24 + b.toNat * Nat.pow 2 16 + c.toNat * Nat.pow 2 8 + d.toNat

def encodeFrame (e : Envelope) : Except FrameError Bytes :=
  let len := envelopeLen e
  if len > maxFrameSize then .error (.envelopeTooLarge len)
  else .ok (lengthPrefix len ++ envelopeBytes e)

def frameLen (e : Envelope) : Except FrameError Nat :=
  let len := envelopeLen e
  if len > maxFrameSize then .error (.envelopeTooLarge len) else .ok (len + 4)

/-- Take one frame off the front of a buffer: the envelope if a whole frame is there
(`none` if more bytes are needed), with the buffer that is left. -/
def decodeFrame (buf : Bytes) : Except FrameError (Option Envelope) × Bytes :=
  match buf with
  | a :: b :: c :: d :: rest =>
    let len := prefixValue a b c d
    if len > maxFrameSize then (.error (.invalidLength len), buf)
    else if rest.length < len then (.ok none, buf)
    else
      match decodeEnvelope (rest.take len) with
      | .ok e => (.ok (some e), rest.drop len)
      | .error err => (.error (.decode err), rest.drop len)
  | _ => (.ok none, buf)

/-- A buffer of bytes read from a stream, from which whole envelopes are taken. -/
structure FrameReader where
  buffer : Bytes := []
  deriving DecidableEq, Repr, Inhabited

namespace FrameReader

def extend (r : FrameReader) (data : Bytes) : FrameReader :=
  ⟨r.buffer ++ data⟩

def next (r : FrameReader) : Except FrameError (Option Envelope) × FrameReader :=
  let (res, rest) := decodeFrame r.buffer
  (res, ⟨rest⟩)

/-- Take envelopes until none is left or one fails: the envelopes taken, the failure if one
happened, and the reader after. `fuel` bounds the frames taken. -/
def drain (r : FrameReader) : Nat → List Envelope × Option FrameError × FrameReader
  | 0 => ([], none, r)
  | fuel + 1 =>
    match r.next with
    | (.ok (some e), r') =>
      let (es, err, r'') := drain r' fuel
      (e :: es, err, r'')
    | (.ok none, r') => ([], none, r')
    | (.error err, r') => ([], some err, r')

/-- Take every envelope the buffer holds; each frame is at least four bytes long. -/
def drainAll (r : FrameReader) : List Envelope × Option FrameError × FrameReader :=
  r.drain (r.buffer.length / 4 + 1)

end FrameReader

theorem lengthPrefix_length (n : Nat) : (lengthPrefix n).length = 4 := rfl

end DeviceFleet.Wire
