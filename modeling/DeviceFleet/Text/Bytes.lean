/-!
# Bytes as text

Raw bytes, their lowercase hexadecimal form, and their reading as UTF-8 text where every
ill-formed part becomes one replacement character `U+FFFD`.
-/

namespace DeviceFleet

abbrev Bytes := List UInt8

namespace Text

def hexChar (n : Nat) : Char :=
  if n < 10 then Char.ofNat (48 + n) else Char.ofNat (87 + n)

def hexOfBytes (bs : Bytes) : String :=
  String.ofList (bs.flatMap fun b => [hexChar (b.toNat / 16), hexChar (b.toNat % 16)])

def hexDigit? (c : Char) : Option Nat :=
  if '0' ≤ c ∧ c ≤ '9' then some (c.toNat - 48)
  else if 'a' ≤ c ∧ c ≤ 'f' then some (c.toNat - 87)
  else if 'A' ≤ c ∧ c ≤ 'F' then some (c.toNat - 55)
  else none

/-- Bytes from pairs of hexadecimal digits. -/
def bytesOfHexChars : List Char → Option Bytes
  | [] => some []
  | [_] => none
  | a :: b :: rest => do
    let x ← hexDigit? a
    let y ← hexDigit? b
    let tail ← bytesOfHexChars rest
    pure ((x * 16 + y).toUInt8 :: tail)

/-- Bytes from hexadecimal text; `none` for an odd length or a character that is no digit. -/
def bytesOfHex? (s : String) : Option Bytes :=
  bytesOfHexChars s.toList

def wordHex (w : UInt64) : String :=
  String.ofList ((List.range 16).reverse.map fun i => hexChar (w.toNat / Nat.pow 16 i % 16))

def wordOfHex? (s : String) : Option UInt64 :=
  if s.length = 16 then
    (s.toList.foldlM (fun acc c => (hexDigit? c).map fun d => acc * 16 + d) 0).map UInt64.ofNat
  else none

/-! ## Lossy UTF-8 -/

/-- How many bytes a sequence with this lead byte spans; zero when it leads none. -/
def utf8Width (b : UInt8) : Nat :=
  if b < 0x80 then 1
  else if b < 0xC2 then 0
  else if b < 0xE0 then 2
  else if b < 0xF0 then 3
  else if b < 0xF5 then 4
  else 0

/-- Whether the byte at position `k` (from 1) after lead byte `lead` continues the sequence:
the second byte's range is narrowed for the leads where the full range would give an
overlong form, a surrogate or a value beyond `U+10FFFF`. -/
def continues (lead : UInt8) (k : Nat) (b : UInt8) : Bool :=
  if k = 1 then
    if lead = 0xE0 then 0xA0 ≤ b && b ≤ 0xBF
    else if lead = 0xED then 0x80 ≤ b && b ≤ 0x9F
    else if lead = 0xF0 then 0x90 ≤ b && b ≤ 0xBF
    else if lead = 0xF4 then 0x80 ≤ b && b ≤ 0x8F
    else 0x80 ≤ b && b ≤ 0xBF
  else 0x80 ≤ b && b ≤ 0xBF

/-- How many of the bytes after a lead byte continue its sequence, counting from position `k`
and stopping at the first that does not or after `left` of them. -/
def continuing (lead : UInt8) (k : Nat) : Nat → Bytes → Nat
  | 0, _ => 0
  | _ + 1, [] => 0
  | left + 1, b :: rest =>
    if continues lead k b then continuing lead (k + 1) left rest + 1 else 0

def utf8Char (w : Nat) (bs : Bytes) : Char :=
  let v := fun i => (bs.getD i 0).toNat
  if w = 2 then Char.ofNat ((v 0 % 32) * 64 + v 1 % 64)
  else if w = 3 then Char.ofNat ((v 0 % 16) * 4096 + (v 1 % 64) * 64 + v 2 % 64)
  else Char.ofNat ((v 0 % 8) * 262144 + (v 1 % 64) * 4096 + (v 2 % 64) * 64 + v 3 % 64)

/-- The characters of bytes read as UTF-8 with replacement; `fuel` is at least the length. -/
def lossyChars : Nat → Bytes → List Char
  | 0, _ => []
  | _ + 1, [] => []
  | fuel + 1, b :: rest =>
    let w := utf8Width b
    if w = 1 then Char.ofNat b.toNat :: lossyChars fuel rest
    else if w = 0 then '�' :: lossyChars fuel rest
    else
      let m := continuing b 1 (w - 1) rest
      if m = w - 1 then utf8Char w (b :: rest) :: lossyChars fuel (rest.drop m)
      else '�' :: lossyChars fuel (rest.drop m)

def lossyText (bs : Bytes) : String :=
  String.ofList (lossyChars (bs.length + 1) bs)

theorem hexOfBytes_length (bs : Bytes) : (hexOfBytes bs).length = 2 * bs.length := by
  unfold hexOfBytes
  induction bs with
  | nil => simp
  | cons b bs ih =>
    simp only [List.flatMap_cons, String.length_ofList, List.length_append, List.length_cons,
      List.length_nil] at ih ⊢
    omega

end Text

end DeviceFleet
