import DeviceFleet.Agent.Apps

/-!
# Running requests on a device

A device answers request envelopes that carry a request identifier; anything else gets no
reply. A request for another device is rejected, an unknown method is not allowed, and an
unknown application is not found; otherwise the named application (in any letter case) runs.
-/

namespace DeviceFleet.Agent

/-- A device: its identifier and state. -/
structure Device where
  deviceId : String
  state : DeviceState
  deriving DecidableEq, Repr

/-- The result of a request's channel and payload. -/
def Device.run (d : Device) (now : Int) (c : Channel) (p : Option Payload) :
    CommandResult × DeviceState :=
  if c.clientId ≠ d.deviceId then (.rejected ("request addressed to " ++ c.clientId), d.state)
  else
    match Method.normalize c.method with
    | .error e => (.notAllowed e.message, d.state)
    | .ok m =>
      match appOf? now (Method.asciiUpper c.appName) with
      | none => (.notFound ("no application " ++ c.appName), d.state)
      | some app => app d.state ⟨m, c.resource, (p.map Payload.body).getD []⟩

def replyOf (request : Channel) (r : CommandResult) (now : Int) : Envelope :=
  let payload : Payload := match r with
    | .completed body metrics => { timestampMs := now, body, metrics }
    | .created => { timestampMs := now }
    | .notFound m | .notAllowed m | .rejected m | .failed m =>
      { timestampMs := now, metrics := [Metric.ofText exceptionMessageMetric m] }
  { channel := some (request.replyTo r.resultCode), payload := some payload }

/-- Handle an envelope at instant `now`: the reply, if any, and the device after. -/
def Device.execute (d : Device) (now : Int) (e : Envelope) : Option Envelope × Device :=
  match e.channel with
  | none => (none, d)
  | some c =>
    if e.messageClass ≠ .request || c.requestId.isEmpty then (none, d)
    else
      let (r, s) := d.run now c e.payload
      (some (replyOf c r now), { d with state := s })

end DeviceFleet.Agent
