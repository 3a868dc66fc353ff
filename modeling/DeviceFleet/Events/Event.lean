import DeviceFleet.Json.Value

/-!
# Service events

Something that happened to an entity of a tenant; the pair of its context id and the
service that emitted it identifies the event.
-/

namespace DeviceFleet.Events

/-- What happened to the entity. -/
inductive EventAction where
  | created
  | updated
  | deleted
  | executed
  deriving DecidableEq, Repr, Inhabited

namespace EventAction

def name : EventAction → String
  | .created => "CREATED"
  | .updated => "UPDATED"
  | .deleted => "DELETED"
  | .executed => "EXECUTED"

def ofName? : String → Option EventAction
  | "CREATED" => some .created
  | "UPDATED" => some .updated
  | "DELETED" => some .deleted
  | "EXECUTED" => some .executed
  | _ => none

theorem ofName_name (a : EventAction) : ofName? a.name = some a := by
  cases a <;> rfl

end EventAction

/-- A business event, with an optional document of details. -/
structure ServiceEvent where
  contextId : String
  sourceService : String
  tenantId : String
  entityType : String
  entityId : String
  action : EventAction
  payload : Option Json
  deriving Inhabited

/-- What identifies an event: its context id and its source service. -/
abbrev EventKey := String × String

def ServiceEvent.key (e : ServiceEvent) : EventKey :=
  (e.contextId, e.sourceService)

end DeviceFleet.Events
