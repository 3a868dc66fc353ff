import DeviceFleet.Bench.Canonical
import DeviceFleet.Command.Correlator

/-!
# The bench: a reply correlator session

The session's clock is counted in microseconds and moves one tick per step; waiting on a call
that is still pending moves it to the call's deadline. Handles are numbered in the order the
registrations succeeded.
-/

namespace DeviceFleet.Bench

open Command

def stepCorrelation (step : Json) : Reads CorrelationId :=
  correlationOfJson ((step.field? "id").getD (.obj []))

def callResultJson : CallResult → Json
  | .completed r => .obj [("completed", responseJson r)]
  | .conversionFailed e => .obj [("translation_failed", conversionFailure e)]
  | .timedOut => .str "timed_out"

def correlatorStep (st : Correlator × Int) (step : Json) : Json × (Correlator × Int) :=
  let (c, now) := st
  let now := now + 1
  let withId (f : CorrelationId → Json × Correlator) : Json × (Correlator × Int) :=
    match stepCorrelation step with
    | .error j => (j, (c, now))
    | .ok id => let (j, c) := f id; (j, (c, now))
  match step.strOr "do" "" with
  | "register" =>
    withId fun id =>
      match c.register id (step.strOr "app" "") ((step.intOr "timeout_ms" 60000).toNat * 1000) now with
      | .ok (h, c) => (.obj [("handle", .int h)], c)
      | .error e => (failure "AlreadyRegistered" e.message, c)
  | "resolve" =>
    match envelopeMember step "envelope" with
    | .error j => (j, (c, now))
    | .ok env =>
      let (o, c) := c.resolve (now / 1000) env
      (match o with
        | .delivered id => .obj [("delivered", .str id.text)]
        | .unmatched id => .obj [("unmatched", .str id.text)]
        | .uncorrelated e => .obj [("uncorrelated", conversionFailure e)], (c, now))
  | "wait" =>
    let h := step.intOr "handle" (-1)
    match (if h < 0 then none else c.wait h.toNat now) with
    | none => (badInput "no such handle, or already waited", (c, now))
    | some (r, now, c) => (callResultJson r, (c, now))
  | "cancel" => withId fun id => let (b, c) := c.cancel id; (.bool b, c)
  | "is_pending" => withId fun id => (.bool (c.isPending id), c)
  | "expire" =>
    let (ids, c) := c.expireOverdue now
    (Json.strs (sortTexts (ids.map CorrelationId.text)), (c, now))
  | "sweep" =>
    let (ids, c) := c.expireOverdue now
    (.int ids.length, (c, now))
  | "count" => (.int c.count, (c, now))
  | "count_for" =>
    (.int (c.countFor (step.strOr "tenant_id" "") (step.strOr "device_id" "")), (c, now))
  | other => (badInput ("unknown step " ++ other), (c, now))

def correlatorSession : Session where
  State := Correlator × Int
  start := fun now _ => .ok ({}, now * 1000)
  step := fun st step => .ok (correlatorStep st step)

end DeviceFleet.Bench
