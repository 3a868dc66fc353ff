/-!
# Decimal numbers

Decimal text of whole numbers, reading of unsigned decimal text with the three ways it can
fail, and the shortest decimal that reads back as a given binary64 value.
-/

namespace DeviceFleet.Text

def natText (n : Nat) : String :=
  Nat.repr n

def intText (n : Int) : String :=
  if n < 0 then "-" ++ natText n.natAbs else natText n.natAbs

/-- Why decimal text is not an unsigned number of a given width. -/
inductive NumberTextError where
  | empty
  | invalidDigit
  | tooLarge
  deriving DecidableEq, Repr

def NumberTextError.message : NumberTextError → String
  | .empty => "cannot parse integer from empty string"
  | .invalidDigit => "invalid digit found in string"
  | .tooLarge => "number too large to fit in target type"

def digitValue? (c : Char) : Option Nat :=
  if '0' ≤ c && c ≤ '9' then some (c.toNat - 48) else none

/-- Value of a list of digits; a non-digit is reported, and so is a value reaching `bound`
(checked after every digit, so a later bad digit does not hide an overflow before it). -/
def digitsValue (bound : Nat) : Nat → List Char → Except NumberTextError Nat
  | acc, [] => .ok acc
  | acc, c :: cs =>
    match digitValue? c with
    | none => .error .invalidDigit
    | some d =>
      let v := acc * 10 + d
      if bound ≤ v then .error .tooLarge else digitsValue bound v cs

/-- An unsigned number below `bound` written in decimal, with an optional leading `+`.
An empty text, or a lone sign, has no digits. -/
def parseUnsigned (bound : Nat) (s : String) : Except NumberTextError Nat :=
  match s.toList with
  | [] => .error .empty
  | ['+'] => .error .invalidDigit
  | '+' :: cs => digitsValue bound 0 cs
  | cs => digitsValue bound 0 cs

def parseU64 (s : String) : Except NumberTextError Nat :=
  parseUnsigned (Nat.pow 2 64) s

/-! ## Shortest decimals of binary64 values -/

def compareScaled (a : Nat) (k : Int) (b : Nat) (p : Int) : Ordering :=
  let lhs := a * Nat.pow 10 k.toNat * Nat.pow 2 (-p).toNat
  let rhs := b * Nat.pow 2 p.toNat * Nat.pow 10 (-k).toNat
  compare lhs rhs

def floorScaled (b : Nat) (p : Int) (k : Int) : Nat :=
  (b * Nat.pow 2 p.toNat * Nat.pow 10 (-k).toNat) / (Nat.pow 2 (-p).toNat * Nat.pow 10 k.toNat)

/-- A finite binary64 value as sign, significand and binary exponent: `± m · 2^q`. -/
def binary64Parts (bits : UInt64) : Bool × Nat × Int :=
  let n : Nat := bits.toNat
  let sign : Bool := n / Nat.pow 2 63 = 1
  let e : Nat := (n / Nat.pow 2 52) % 2048
  let f : Nat := n % Nat.pow 2 52
  if e = 0 then (sign, f, -1074) else (sign, f + Nat.pow 2 52, Int.ofNat e - 1075)

/-- Whether the exponent field is all ones: an infinity or a NaN. -/
def binary64IsSpecial (bits : UInt64) : Bool :=
  (bits.toNat / Nat.pow 2 52) % 2048 = 2047

/-- The decimal exponent of a positive value `m · 2^q`: the `e` with `10^e ≤ m · 2^q < 10^(e+1)`. -/
def decimalExponent (m : Nat) (q : Int) : Int :=
  -- a first guess from the bit length, then at most a few corrections each way
  let guess : Int := ((Nat.log2 m : Int) + q) * 30103 / 100000
  let up := fun (e : Int) => compareScaled 1 (e + 1) m q != .gt
  let down := fun (e : Int) => compareScaled 1 e m q == .gt
  let e1 := if up guess then (if up (guess + 1) then guess + 2 else guess + 1) else guess
  if down e1 then (if down (e1 - 1) then e1 - 2 else e1 - 1) else e1

/-- The shortest decimal `d · 10^k` that lies in the rounding interval of the positive value
`m · 2^q` (with `q` its exponent); of two candidates with that many digits the nearer. -/
def shortestOf (m : Nat) (q : Int) (lowerHalf : Bool) : Nat × Int :=
  -- interval ends in units of 2^(q-2): the value is 4m, the ends 4m ± 2
  -- (the lower end 4m - 1 when the value is a power of two above the subnormals)
  let lo := if lowerHalf then 4 * m - 1 else 4 * m - 2
  let hi := 4 * m + 2
  let inclusive := m % 2 = 0
  let inside := fun (d : Nat) (k : Int) =>
    let a := compareScaled d k lo (q - 2)
    let b := compareScaled d k hi (q - 2)
    (a == .gt || (inclusive && a == .eq)) && (b == .lt || (inclusive && b == .eq))
  let e := decimalExponent m q
  let rec search (fuel : Nat) (digits : Nat) : Nat × Int :=
    match fuel with
    | 0 => (m, 0)
    | fuel + 1 =>
      let k := e - ((digits : Int) - 1)
      let d0 := floorScaled m q k
      let d1 := d0 + 1
      let in0 := inside d0 k
      let in1 := inside d1 k
      if in0 && in1 then
        -- the nearer one: compare twice the value with d0 + d1
        match compareScaled (d0 + d1) k (2 * m) q with
        | .lt => (d1, k)
        | .gt => (d0, k)
        | .eq => if d0 % 2 = 0 then (d0, k) else (d1, k)
      else if in0 then (d0, k)
      else if in1 then (d1, k)
      else search fuel (digits + 1)
  search 17 1

/-- Digits and exponent of the shortest decimal of a finite binary64 value, with its sign;
`none` for infinities and NaNs. Zero is `(sign, 0, 0)`. -/
def shortestDecimal (bits : UInt64) : Option (Bool × Nat × Int) :=
  if binary64IsSpecial bits then none
  else
    let (sign, m, q) := binary64Parts bits
    if m = 0 then some (sign, 0, 0)
    else
      let lowerHalf := m = Nat.pow 2 52 && q > -1074
      let (d, k) := shortestOf m q lowerHalf
      let rec strip (fuel : Nat) (d : Nat) (k : Int) : Nat × Int :=
        match fuel with
        | 0 => (d, k)
        | fuel + 1 => if d % 10 = 0 && d ≠ 0 then strip fuel (d / 10) (k + 1) else (d, k)
      let (d, k) := strip 20 d k
      some (sign, d, k)

def zeros (n : Nat) : String :=
  String.ofList (List.replicate n '0')

/-- Positional text of `d · 10^k` without exponent; a point only when `k < 0`. -/
def positional (d : Nat) (k : Int) : String :=
  let ds := natText d
  if 0 ≤ k then ds ++ zeros k.toNat
  else
    let len := ds.length
    let shift := (-k).toNat
    if shift < len then
      String.ofList (ds.toList.take (len - shift)) ++ "." ++ String.ofList (ds.toList.drop (len - shift))
    else "0." ++ zeros (shift - len) ++ ds

/-- How a binary64 value is written in a JSON document: positional between `1e-5` and
`1e16`, with `.0` after a whole number, otherwise `d.ddde±x` with the exponent's sign always
written; non-finite values are written `null`. -/
def doubleText (bits : UInt64) : String :=
  match shortestDecimal bits with
  | none => "null"
  | some (sign, d, k) =>
    let s := if sign then "-" else ""
    if d = 0 then s ++ "0.0"
    else
      let ds := natText d
      let len : Int := ds.length
      let kk := len + k
      if 0 ≤ k && kk ≤ 16 then s ++ ds ++ zeros k.toNat ++ ".0"
      else if 0 < kk && kk ≤ 16 then s ++ positional d k
      else if -5 < kk && kk ≤ 0 then s ++ "0." ++ zeros (-kk).toNat ++ ds
      else
        let exp := (if 0 ≤ kk - 1 then "+" else "") ++ intText (kk - 1)
        match ds.toList with
        | [c] => s ++ String.ofList [c] ++ "e" ++ exp
        | c :: cs => s ++ String.ofList [c] ++ "." ++ String.ofList cs ++ "e" ++ exp
        | [] => s ++ "0.0"

/-! ## Reading decimals as binary64 values -/

/-- Bits of the binary64 value nearest to `digits · 10^exp10` (ties to the even significand),
with the given sign; `none` when the value is too large to represent. Values far below the
smallest subnormal become zero. -/
def binary64OfDecimal (neg : Bool) (digits : Nat) (exp10 : Int) : Option UInt64 :=
  let signBit : Nat := if neg then Nat.pow 2 63 else 0
  if digits = 0 then some (UInt64.ofNat signBit)
  else
    let magnitude : Int := ((Nat.repr digits).length : Int) + exp10
    if magnitude > 310 then none
    else if magnitude < -400 then some (UInt64.ofNat signBit)
    else
      let num := digits * Nat.pow 10 exp10.toNat
      let den := Nat.pow 10 (-exp10).toNat
      -- the binary exponent of the value: 2^e2 ≤ num/den < 2^(e2+1)
      let guess : Int := (Nat.log2 num : Int) - (Nat.log2 den : Int)
      let atLeast := fun (e : Int) => num * Nat.pow 2 (-e).toNat ≥ den * Nat.pow 2 e.toNat
      let e2 := if atLeast guess then guess else guess - 1
      let q : Int := max (e2 - 52) (-1074)
      let scaledNum := num * Nat.pow 2 (-q).toNat
      let scaledDen := den * Nat.pow 2 q.toNat
      let m0 := scaledNum / scaledDen
      let r := scaledNum % scaledDen
      let m1 := if 2 * r > scaledDen || (2 * r = scaledDen && m0 % 2 = 1) then m0 + 1 else m0
      let (m, q) := if m1 = Nat.pow 2 53 then (Nat.pow 2 52, q + 1) else (m1, q)
      if q > 971 then none
      else if m < Nat.pow 2 52 then some (UInt64.ofNat (signBit + m))
      else some (UInt64.ofNat (signBit + (q + 1075).toNat * Nat.pow 2 52 + (m - Nat.pow 2 52)))

end DeviceFleet.Text
