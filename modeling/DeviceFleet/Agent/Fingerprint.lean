import DeviceFleet.Text.Bytes

/-!
# Key fingerprints

A key's fingerprint is the SipHash-1-3 digest, under the all-zero key, of the key material's
UTF-8 bytes followed by the byte `0xff` (which never occurs in UTF-8, so no material's bytes
are a prefix of another's), written as sixteen lowercase hexadecimal digits.
-/

namespace DeviceFleet.Agent

def rotl (x : UInt64) (n : UInt64) : UInt64 :=
  (x <<< n) ||| (x >>> (64 - n))

/-- The four words of the hash state. -/
structure SipState where
  v0 : UInt64
  v1 : UInt64
  v2 : UInt64
  v3 : UInt64

/-- One mixing round. -/
def sipRound (s : SipState) : SipState :=
  let v0 := s.v0 + s.v1
  let v1 := rotl s.v1 13 ^^^ v0
  let v0 := rotl v0 32
  let v2 := s.v2 + s.v3
  let v3 := rotl s.v3 16 ^^^ v2
  let v0 := v0 + v3
  let v3 := rotl v3 21 ^^^ v0
  let v2 := v2 + v1
  let v1 := rotl v1 17 ^^^ v2
  let v2 := rotl v2 32
  ⟨v0, v1, v2, v3⟩

def absorb (s : SipState) (m : UInt64) : SipState :=
  let s := sipRound { s with v3 := s.v3 ^^^ m }
  { s with v0 := s.v0 ^^^ m }

def wordLE (bs : Bytes) : UInt64 :=
  bs.foldr (fun b acc => (acc <<< 8) ||| b.toUInt64) 0

/-- Mix in all whole blocks; `fuel` bounds the blocks. -/
def absorbBlocks : Nat → SipState → Bytes → SipState × Bytes
  | 0, s, bs => (s, bs)
  | fuel + 1, s, bs =>
    if bs.length < 8 then (s, bs)
    else absorbBlocks fuel (absorb s (wordLE (bs.take 8))) (bs.drop 8)

/-- The SipHash-1-3 digest of bytes under the all-zero key. -/
def sipHash13 (bs : Bytes) : UInt64 :=
  let s : SipState := ⟨0x736f6d6570736575, 0x646f72616e646f6d, 0x6c7967656e657261,
    0x7465646279746573⟩
  let (s, rest) := absorbBlocks (bs.length / 8 + 1) s bs
  let last := ((bs.length % 256).toUInt64 <<< 56) ||| wordLE rest
  let s := absorb s last
  let s := { s with v2 := s.v2 ^^^ 0xff }
  let s := sipRound (sipRound (sipRound s))
  s.v0 ^^^ s.v1 ^^^ s.v2 ^^^ s.v3

def fingerprint (material : String) : String :=
  Text.wordHex (sipHash13 (material.toUTF8.toList ++ [0xff]))

end DeviceFleet.Agent
