import DeviceFleet.Command.Operation
import DeviceFleet.Conversion.Basic
import DeviceFleet.Store.Error

/-!
# Dispatching requests: outcomes and failures

A request ends completed by its reply, failed in conversion, or timed out; sending fails when
the request cannot reach its device, the store fails, or an observed call is unknown.
-/

namespace DeviceFleet.Command

open Conversion

def operationEventSource : String := "device-management-operation"

/-- How a sent request ended. -/
inductive DispatchOutcome where
  | completed (response : CanonicalResponse)
  | conversionFailed (error : ConversionError)
  | timedOut (id : CorrelationId) (timeoutMs : Nat)

def timeoutMessage (id : CorrelationId) (timeoutMs : Nat) : String :=
  "No reply to " ++ id.text ++ " within " ++ Text.natText timeoutMs ++ "ms"

/-- Why sending failed. -/
inductive DispatchError where
  | communication (id : CorrelationId) (reason : String)
  | store (e : Store.StoreError)
  | unknownOperation (id : CorrelationId)

namespace DispatchError

def kind : DispatchError → String
  | .communication .. => "Communication"
  | .store _ => "Store"
  | .unknownOperation _ => "UnknownOperation"

def message : DispatchError → String
  | .communication id r => "Failed to deliver request " ++ id.text ++ ": " ++ r
  | .store e => "Operation store error: " ++ e.message
  | .unknownOperation id => "Operation " ++ id.text ++ " not found"

end DispatchError

def settlementOf (r : CanonicalResponse) : OperationStatus × Option String :=
  if r.isAccepted then (.completed, none)
  else (.failed, some (r.exceptionMessage.getD ("device replied " ++ r.code.title)))

def observedStatus : DispatchOutcome → OperationStatus
  | .completed r => if r.isAccepted then .completed else .failed
  | .conversionFailed _ => .failed
  | .timedOut .. => .notified

theorem settlementOf_final (r : CanonicalResponse) : (settlementOf r).1.isFinal = true := by
  unfold settlementOf
  split <;> rfl

end DeviceFleet.Command
