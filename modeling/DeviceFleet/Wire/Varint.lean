import DeviceFleet.Protocol.Message

/-!
# Base-128 varints

A varint writes a number below `2^64` seven bits at a time, least significant group first;
every byte but the last has its top bit set. Reading accepts at most ten bytes, and in the
tenth byte only the lowest bit may be set, so every accepted varint is below `2^64`.
-/

namespace DeviceFleet.Wire

def varint (n : Nat) : Bytes :=
  if h : n < 128 then [n.toUInt8]
  else (n % 128 + 128).toUInt8 :: varint (n / 128)
termination_by n
decreasing_by omega

def varintLen (n : Nat) : Nat :=
  if n < 128 then 1 else varintLen (n / 128) + 1
termination_by n
decreasing_by omega

def ofSigned (n : Int) : Nat :=
  if n < 0 then (n + Int.pow 2 64).toNat else n.toNat

def toSigned64 (n : Nat) : Int :=
  let m : Nat := n % Nat.pow 2 64
  if m < Nat.pow 2 63 then Int.ofNat m else Int.ofNat m - Int.pow 2 64

def toSigned32 (n : Nat) : Int :=
  let m : Nat := n % Nat.pow 2 32
  if m < Nat.pow 2 31 then Int.ofNat m else Int.ofNat m - Int.pow 2 32

def toUnsigned32 (n : Nat) : Nat :=
  n % Nat.pow 2 32

/-- Read a varint: the number, how many bytes it took and the bytes after it; `none` when
the bytes end first, more than ten bytes would be needed, or the tenth byte carries more
than one bit. -/
def readVarint (bs : Bytes) : Option (Nat × Nat × Bytes) :=
  go 0 0 bs
where
  go (count : Nat) (acc : Nat) : Bytes → Option (Nat × Nat × Bytes)
    | [] => none
    | b :: rest =>
      let acc := acc + (b.toNat % 128) * Nat.pow 2 (7 * count)
      if b.toNat < 128 then
        if count = 9 && b.toNat ≥ 2 then none else some (acc, count + 1, rest)
      else if count = 9 then none
      else go (count + 1) acc rest

theorem varint_ne_nil (n : Nat) : varint n ≠ [] := by
  unfold varint
  split <;> simp

end DeviceFleet.Wire
