import DeviceFleet.Text.Decimal

/-!
# Binary64 arithmetic

Products and quotients of finite binary64 values, rounded to nearest with ties to even, through
their bits.
-/

namespace DeviceFleet.Text

def binary64SignBit : Nat := Nat.pow 2 63

def binary64InfinityBits : Nat := 2047 * Nat.pow 2 52

/-- Bits of the binary64 value nearest to `num / den` (ties to the even significand), with
the sign `neg`: a zero when `num` is zero, an infinity when the value is beyond the largest
finite value or `den` is zero. -/
def binary64OfRatio (neg : Bool) (num den : Nat) : UInt64 :=
  let s : Nat := if neg then binary64SignBit else 0
  if num = 0 then UInt64.ofNat s
  else if den = 0 then UInt64.ofNat (s + binary64InfinityBits)
  else
    -- the binary exponent of the value: 2^e2 ≤ num/den < 2^(e2+1)
    let guess : Int := (Nat.log2 num : Int) - (Nat.log2 den : Int)
    let atLeast := fun (e : Int) => num * Nat.pow 2 (-e).toNat ≥ den * Nat.pow 2 e.toNat
    let e2 := if atLeast guess then guess else guess - 1
    let q : Int := max (e2 - 52) (-1074)
    let scaledNum := num * Nat.pow 2 (-q).toNat
    let scaledDen := den * Nat.pow 2 q.toNat
    let m0 := scaledNum / scaledDen
    let r := scaledNum % scaledDen
    let m1 := if 2 * r > scaledDen || (2 * r = scaledDen && m0 % 2 = 1) then m0 + 1 else m0
    let (m, q) := if m1 = Nat.pow 2 53 then (Nat.pow 2 52, q + 1) else (m1, q)
    if q > 971 then UInt64.ofNat (s + binary64InfinityBits)
    else if m < Nat.pow 2 52 then UInt64.ofNat (s + m)
    else UInt64.ofNat (s + (q + 1075).toNat * Nat.pow 2 52 + (m - Nat.pow 2 52))

def binary64Mul (a b : UInt64) : UInt64 :=
  let (sa, ma, qa) := binary64Parts a
  let (sb, mb, qb) := binary64Parts b
  let q := qa + qb
  binary64OfRatio (sa != sb) (ma * mb * Nat.pow 2 q.toNat) (Nat.pow 2 (-q).toNat)

def binary64Div (a b : UInt64) : UInt64 :=
  let (sa, ma, qa) := binary64Parts a
  let (sb, mb, qb) := binary64Parts b
  let q := qa - qb
  binary64OfRatio (sa != sb) (ma * Nat.pow 2 q.toNat) (mb * Nat.pow 2 (-q).toNat)

def binary64IsInfinite (bits : UInt64) : Bool :=
  bits.toNat % binary64SignBit == binary64InfinityBits

def binary64IsZero (bits : UInt64) : Bool :=
  bits.toNat % binary64SignBit == 0

def binary64Negate (bits : UInt64) : UInt64 :=
  UInt64.ofNat ((bits.toNat + binary64SignBit) % Nat.pow 2 64)

theorem binary64OfRatio_zero (neg : Bool) (den : Nat) :
    binary64OfRatio neg 0 den = UInt64.ofNat (if neg then binary64SignBit else 0) := by
  simp [binary64OfRatio]

end DeviceFleet.Text
