import DeviceFleet.Text.Decimal

/-!
# Civil dates

Dates of the proleptic Gregorian calendar from −262143-01-01 to 262142-12-31, counted as days
from 1970-01-01 (a Thursday). The conversion both ways follows the 400-year cycle of 146097
days, with years starting in March so that the leap day ends a year.
-/

namespace DeviceFleet.Calendar

/-- A calendar date. -/
structure Date where
  year : Int
  month : Nat
  day : Nat
  deriving DecidableEq, Repr, Inhabited

def isLeap (y : Int) : Bool :=
  y % 4 = 0 && (y % 100 ≠ 0 || y % 400 = 0)

def monthLength (y : Int) (m : Nat) : Nat :=
  match m with
  | 2 => if isLeap y then 29 else 28
  | 4 | 6 | 9 | 11 => 30
  | _ => 31

def minYear : Int := -262143

def maxYear : Int := 262142

namespace Date

def ofYmd? (y : Int) (m d : Nat) : Option Date :=
  if minYear ≤ y ∧ y ≤ maxYear ∧ 1 ≤ m ∧ m ≤ 12 ∧ 1 ≤ d ∧ d ≤ monthLength y m then
    some ⟨y, m, d⟩
  else none

/-- Days from 1970-01-01 to a date. -/
def toDays (d : Date) : Int :=
  let y : Int := if d.month ≤ 2 then d.year - 1 else d.year
  let era := y / 400
  let yoe := y - era * 400
  let mp : Int := ((d.month + 9) % 12 : Nat)
  let doy := (153 * mp + 2) / 5 + (d.day : Int) - 1
  let doe := yoe * 365 + yoe / 4 - yoe / 100 + doy
  era * 146097 + doe - 719468

/-- The date a number of days after 1970-01-01. -/
def ofDays (z : Int) : Date :=
  let z := z + 719468
  let era := z / 146097
  let doe := z - era * 146097
  let yoe := (doe - doe / 1460 + doe / 36524 - doe / 146096) / 365
  let y := yoe + era * 400
  let doy := doe - (365 * yoe + yoe / 4 - yoe / 100)
  let mp := (5 * doy + 2) / 153
  let d := doy - (153 * mp + 2) / 5 + 1
  let m := if mp < 10 then mp + 3 else mp - 9
  ⟨if m ≤ 2 then y + 1 else y, m.toNat, d.toNat⟩

/-- Days from Sunday: 0 for Sunday, 6 for Saturday. -/
def weekdayFromSunday (d : Date) : Nat :=
  ((d.toDays + 4) % 7).toNat

def ordinal0 (d : Date) : Nat :=
  (d.toDays - (⟨d.year, 1, 1⟩ : Date).toDays).toNat

end Date

def minDays : Int := (⟨minYear, 1, 1⟩ : Date).toDays

def maxDays : Int := (⟨maxYear, 12, 31⟩ : Date).toDays

def pastLastDate : String := "`NaiveDate + TimeDelta` overflowed"

/-- The year and number of a date's week; stepping to the week's Saturday past the calendar's
last date is a fatal error. -/
def weekOfYear (d : Date) : Except String (Int × Nat) :=
  let saturday := d.toDays + (6 - d.weekdayFromSunday : Nat)
  if saturday > maxDays then .error pastLastDate
  else if (Date.ofDays saturday).year > d.year then .ok (d.year + 1, 1)
  else
    let offset := (⟨d.year, 1, 1⟩ : Date).weekdayFromSunday
    .ok (d.year, (d.ordinal0 + offset) / 7 + 1)

def msPerDay : Int := 86400000

def dateHourOfMillis (ms : Int) : Date × Nat :=
  (Date.ofDays (ms / msPerDay), ((ms % msPerDay) / 3600000).toNat)

def padded (width : Nat) (n : Nat) : String :=
  let s := Text.natText n
  String.ofList (List.replicate (width - s.length) '0') ++ s

/-- A year as dates print it: four digits within 0 to 9999, otherwise signed. -/
def yearText (y : Int) : String :=
  if 0 ≤ y ∧ y ≤ 9999 then padded 4 y.toNat
  else (if y < 0 then "-" else "+") ++ padded 4 y.natAbs

def Date.text (d : Date) : String :=
  yearText d.year ++ "-" ++ padded 2 d.month ++ "-" ++ padded 2 d.day

theorem ofYmd_year {y : Int} {m d : Nat} {x : Date} (h : Date.ofYmd? y m d = some x) :
    x.year = y := by
  unfold Date.ofYmd? at h
  split at h
  · cases h; rfl
  · cases h

end DeviceFleet.Calendar
