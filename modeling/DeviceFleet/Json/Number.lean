import DeviceFleet.Text.Binary64

/-!
# The values of JSON numbers

A number with a fraction or an exponent reads as a binary64 value in rounded steps: a 64-bit
significand, converted, then scaled by a table of powers of ten. Each step rounds, so the
result may be one unit off in the last place; the exponent saturates at 32 bits.
-/

namespace DeviceFleet.Json

def significandBound : Nat := Nat.pow 2 64

def maxWrittenExponent : Nat := 2147483647

def saturateExponent (e : Int) : Int :=
  max (-2147483648) (min 2147483647 e)

def digitOf (d : UInt8) : Nat :=
  d.toNat - 48

/-- Whole digits gathered into the significand `sig`: the significand and how many digits
did not fit, the first that did not and all after it. -/
def gatherWhole (sig : Nat) : List UInt8 → Nat × Nat
  | [] => (sig, 0)
  | d :: ds =>
    let next := sig * 10 + digitOf d
    if next ≥ significandBound then (sig, ds.length + 1)
    else gatherWhole next ds

/-- Fraction digits gathered into the significand `sig`: the significand and how many digits
it took; from the first digit that does not fit on, digits are dropped. -/
def gatherFraction (sig : Nat) : List UInt8 → Nat × Nat
  | [] => (sig, 0)
  | d :: ds =>
    let next := sig * 10 + digitOf d
    if next ≥ significandBound then (sig, 0)
    else
      let (s, n) := gatherFraction next ds
      (s, n + 1)

/-- The table's power of ten: the binary64 value nearest to `10^k`. -/
def powerOfTen (k : Nat) : UInt64 :=
  Text.binary64OfRatio false (Nat.pow 10 k) 1

/-- A non-negative binary64 value scaled by `10^exponent` through the table; `none` when the
result is too large. -/
def scaleByTen (f : UInt64) (exponent : Int) : Option UInt64 :=
  if exponent.natAbs ≤ 308 then
    if 0 ≤ exponent then
      let g := Text.binary64Mul f (powerOfTen exponent.toNat)
      if Text.binary64IsInfinite g then none else some g
    else some (Text.binary64Div f (powerOfTen exponent.natAbs))
  else if Text.binary64IsZero f then some f
  else if 0 ≤ exponent then none
  else scaleByTen (Text.binary64Div f (powerOfTen 308)) (exponent + 308)
termination_by exponent.natAbs
decreasing_by omega

/-- The binary64 value of a number read as its sign, significand and exponent:
`± significand · 10^exponent` in rounded steps; `none` when it is too large. -/
def doubleOfParts (negative : Bool) (significand : Nat) (exponent : Int) : Option UInt64 :=
  (scaleByTen (Text.binary64OfRatio false significand 1) exponent).map fun f =>
    if negative then Text.binary64Negate f else f

theorem gatherWhole_nil (sig : Nat) : gatherWhole sig [] = (sig, 0) := rfl

end DeviceFleet.Json
