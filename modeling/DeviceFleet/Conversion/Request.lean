import DeviceFleet.Conversion.Basic

/-!
# Requests to envelopes

A canonical request goes to its device as a request envelope under a correlation identifier,
which must address the same tenant and device. The method travels by its device spelling,
the instant as milliseconds and the metrics in name order.
-/

namespace DeviceFleet.Conversion

/-- A canonical request with the identifier it is sent under. -/
structure CorrelatedRequest where
  correlationId : CorrelationId
  request : CanonicalRequest
  deriving DecidableEq, Repr

/-- The envelope of a request. -/
def convertRequest (src : CorrelatedRequest) : Except ConversionError Envelope :=
  let r := src.request
  let cid := src.correlationId
  if r.tenantId.isEmpty || r.deviceId.isEmpty then
    .error (.invalidChannel "tenant and device id are required")
  else if r.appName.isEmpty then .error (.invalidChannel "app name is required")
  else if cid.tenantId ≠ r.tenantId || cid.deviceId ≠ r.deviceId then
    .error (.invalidChannel ("correlation id " ++ cid.text ++ " does not address " ++
      r.tenantId ++ "/" ++ r.deviceId))
  else if r.metrics.any (fun kv => kv.1.isEmpty) then
    .error (.invalidPayload "metric names must not be empty")
  else
    .ok { channel := some
            { messageClass := MessageClass.request.code
              tenantId := r.tenantId
              clientId := r.deviceId
              appName := r.appName
              appVersion := r.appVersion
              method := r.method.deviceAlias
              resource := r.resourcePath
              requester := r.requester
              requestId := cid.requestId.text
              username := r.username }
          payload := some
            { timestampMs := r.capturedOn
              metrics := encodeMetrics r.metrics
              body := r.body } }

end DeviceFleet.Conversion
