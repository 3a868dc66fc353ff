import DeviceFleet.Protocol.Canonical

/-!
# Device management operations

Every request sent is tracked as an operation that runs until a reply finishes it; a final
status never changes, a timeout marks it notified, and publishing is recorded once.
-/

namespace DeviceFleet.Command

/-- Where an operation is. -/
inductive OperationStatus where
  | running
  | notified
  | completed
  | failed
  deriving DecidableEq, Repr, Inhabited

namespace OperationStatus

def isFinal : OperationStatus → Bool
  | .completed | .failed => true
  | _ => false

def name : OperationStatus → String
  | .running => "RUNNING"
  | .notified => "NOTIFIED"
  | .completed => "COMPLETED"
  | .failed => "FAILED"

def ofName? : String → Option OperationStatus
  | "RUNNING" => some .running
  | "NOTIFIED" => some .notified
  | "COMPLETED" => some .completed
  | "FAILED" => some .failed
  | _ => none

end OperationStatus

/-- A request to a device and what became of it. Instants are milliseconds. -/
structure Operation where
  operationId : Uuid
  correlationId : CorrelationId
  tenantId : String
  deviceId : String
  appName : String
  method : Method
  resource : List String
  status : OperationStatus := .running
  startedOn : Int
  endedOn : Option Int := none
  message : Option String := none
  published : Bool := false
  version : Nat := 0
  deriving DecidableEq, Repr

namespace Operation

def start (cid : CorrelationId) (r : CanonicalRequest) (now : Int) : Operation :=
  { operationId := cid.requestId, correlationId := cid, tenantId := cid.tenantId,
    deviceId := cid.deviceId, appName := r.appName, method := r.method,
    resource := r.resourcePath, startedOn := now }

/-- Finish with a final status at instant `now`; nothing changes once final, or for a status
that is not final. -/
def finish (op : Operation) (status : OperationStatus) (message : Option String) (now : Int) :
    Bool × Operation :=
  if op.status.isFinal || !status.isFinal then (false, op)
  else (true, { op with status, endedOn := some now, message })

def markPublished (op : Operation) : Bool × Operation :=
  if op.published then (false, op) else (true, { op with published := true })

/-- Record that no reply came in time; only a running operation is marked. -/
def notifyTimeout (op : Operation) (message : String) : Bool × Operation :=
  if op.status = .running then (true, { op with status := .notified, message := some message })
  else (false, op)

theorem finish_final_sticky (op : Operation) (s : OperationStatus) (m : Option String)
    (now : Int) (h : op.status.isFinal = true) : (op.finish s m now).2 = op := by
  simp [finish, h]

end Operation

/-- The changes made to a stored operation. -/
inductive Change where
  | finish (status : OperationStatus) (message : Option String)
  | notifyTimeout (message : String)
  | markPublished
  deriving DecidableEq, Repr

/-- Make a change at instant `now`; only finishing reads the clock. -/
def Change.apply : Change → Int → Operation → Bool × Operation
  | .finish status message, now, op => op.finish status message now
  | .notifyTimeout message, _, op => op.notifyTimeout message
  | .markPublished, _, op => op.markPublished

end DeviceFleet.Command
