import DeviceFleet.Calendar.Date

/-!
# Data index names

One index per tenant and period, `{tenant}-data-message-` and the week, date or hour in UTC;
an instant outside the calendar has no index.
-/

namespace DeviceFleet.Datastore

open Calendar

/-- How long the period of one index is. -/
inductive Granularity where
  | week
  | day
  | hour
  deriving DecidableEq, Repr, Inhabited

namespace Granularity

def name : Granularity → String
  | .week => "week"
  | .day => "day"
  | .hour => "hour"

/-- Read a granularity in any letter case; the fault names the lowercased text. -/
def parse (s : String) : Except String Granularity :=
  let lower := String.map Char.toLower s
  match lower with
  | "week" => .ok .week
  | "day" => .ok .day
  | "hour" => .ok .hour
  | other => .error ("unknown index granularity: " ++ other)

end Granularity

/-- An instant with no index. -/
structure IndexNameError where
  timestampMs : Int
  deriving DecidableEq, Repr

def IndexNameError.message (e : IndexNameError) : String :=
  "Timestamp " ++ Text.intText e.timestampMs ++ "ms is outside the representable date range"

def instantHeld (ms : Int) : Bool :=
  decide (minDays * msPerDay ≤ ms ∧ ms < (maxDays + 1) * msPerDay)

/-- The index of a tenant's data at an instant. -/
def indexName (tenant : String) (ms : Int) (g : Granularity) :
    Except String (Except IndexNameError String) :=
  if !instantHeld ms then .ok (.error ⟨ms⟩)
  else
    let (date, hour) := dateHourOfMillis ms
    let pre := tenant ++ "-data-message-"
    match g with
    | .week =>
      match weekOfYear date with
      | .ok (y, w) => .ok (.ok (pre ++ Text.intText y ++ "-" ++ padded 2 w))
      | .error fatal => .error fatal
    | .day => .ok (.ok (pre ++ date.text))
    | .hour => .ok (.ok (pre ++ date.text ++ "-" ++ padded 2 hour))

end DeviceFleet.Datastore
