import DeviceFleet.Job.Error
import DeviceFleet.Json.Value

/-!
# Error responses

What the control surface answers when a command fails: an HTTP status, an error code and a
message, with the failure's trace when the server is set to include it.
-/

namespace DeviceFleet.Control

/-- An error response. -/
structure ErrorResponse where
  httpStatus : Nat
  errorCode : String
  message : String
  stackTrace : Option (List String) := none
  deriving DecidableEq, Repr

namespace ErrorResponse

def routeNotFound (method path : String) : ErrorResponse :=
  ⟨404, "ROUTE_NOT_FOUND", "No route for " ++ method ++ " " ++ path, none⟩

def badRequest (message : String) : ErrorResponse :=
  ⟨400, "BAD_REQUEST", message, none⟩

def ofJobError (e : Job.JobError) (includeStackTrace : Bool) : ErrorResponse :=
  ⟨e.httpStatus, e.errorCode, e.message, if includeStackTrace then some e.trace else none⟩

/-- The response as JSON; the trace is left out when absent. -/
def toJson (r : ErrorResponse) : Json :=
  .obj ([("httpStatus", .int r.httpStatus), ("errorCode", .str r.errorCode),
    ("message", .str r.message)] ++
    match r.stackTrace with
    | some t => [("stackTrace", Json.strs t)]
    | none => [])

end ErrorResponse

end DeviceFleet.Control
