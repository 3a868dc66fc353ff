import DeviceFleet.Bench.Envelope
import DeviceFleet.Agent.Executor

/-!
# The bench: a device agent session

-/

namespace DeviceFleet.Bench

open Agent

def textMapJson (m : SortedMap String) : Json :=
  .obj (m.map fun (k, v) => (k, .str v))

def deviceStateJson (s : DeviceState) : Json :=
  .obj [("bundles", textMapJson s.bundles), ("keys", textMapJson s.keys),
    ("assets", textMapJson s.assets), ("key_rotations", .int s.keyRotations)]

def agentStep (st : Device × Int) (step : Json) : Except String (Json × (Device × Int)) :=
  let (d, now) := st
  match step.field? "envelope" with
  | some e =>
    match envelopeOfJson e with
    | .error j => .ok (j, st)
    | .ok env =>
      let (reply, d') := d.execute now env
      .ok (.obj [("reply", match reply with
        | some r => envelopeJson r
        | none => .null)], (d', now))
  | none => .ok (deviceStateJson d.state, st)

def agentSession : Session where
  State := Device × Int
  start := fun now input => .ok (⟨input.strOr "device_id" "gw-001", DeviceState.seeded now⟩, now)
  step := agentStep

end DeviceFleet.Bench
