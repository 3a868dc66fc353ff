import DeviceFleet.Conversion.Basic

/-!
# Envelopes to responses

A response envelope needs a routable channel of the response class, a method name or none,
and a stamp within the calendar (0 or none is stamped now).
-/

namespace DeviceFleet.Conversion

/-- The channel of a response envelope, checked. -/
def responseChannel (e : Envelope) : Except ConversionError Channel :=
  match e.channel with
  | none => .error (.invalidChannel "missing channel")
  | some c =>
    if c.messageClass ≠ MessageClass.response.code then
      .error (.invalidChannel ("message class " ++ Text.intText c.messageClass ++
        " is not a response"))
    else if c.tenantId.isEmpty || c.clientId.isEmpty then
      .error (.invalidChannel "tenant and client id are required")
    else if c.appName.isEmpty then .error (.invalidChannel "app name is required")
    else .ok c

def convertCorrelation (e : Envelope) : Except ConversionError CorrelationId := do
  let c ← responseChannel e
  if c.requestId.isEmpty then throw (.invalidChannel "missing request id")
  match Uuid.parse c.requestId with
  | .ok u => pure ⟨c.tenantId, c.clientId, u⟩
  | .error err =>
    throw (.invalidChannel ("request id '" ++ c.requestId ++ "' is not a UUID: " ++ err.message))

/-- The canonical response of an envelope, at the current instant `now`. -/
def convertResponse (now : Int) (e : Envelope) : Except ConversionError CanonicalResponse := do
  let c ← responseChannel e
  let method ← if c.method.isEmpty then pure none
    else match Method.normalize c.method with
      | .ok m => pure (some m)
      | .error err => throw (.invalidChannel err.message)
  let (capturedOn, metrics, body) ← match e.payload with
    | none => pure (now, [], [])
    | some p => do
      let stamp ← if p.timestampMs = 0 then pure now
        else if instantInRange p.timestampMs then pure p.timestampMs
        else throw (.invalidPayload ("timestamp " ++ Text.intText p.timestampMs ++
          " out of range"))
      let ms ← decodeMetrics p.metrics
      pure (stamp, ms, p.body)
  let exceptionMessage := (metrics.lookup exceptionMessageMetric).bind MetricValue.asText?
  pure { tenantId := c.tenantId
         deviceId := c.clientId
         appName := c.appName
         appVersion := c.appVersion
         method
         resourcePath := c.resource
         body
         metrics
         capturedOn
         headers :=
           { requester := c.requester
             requestId := c.requestId
             username := c.username
             clientId := c.clientId
             clientIp := c.clientIp
             connectionId := c.connectionId
             resultCode := some c.resultCode
             errorCode := if c.errorCode.isEmpty then none else some c.errorCode }
         code := ResponseCode.ofResultCode c.resultCode
         exceptionMessage }

end DeviceFleet.Conversion
