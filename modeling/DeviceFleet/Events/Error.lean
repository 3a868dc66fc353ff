import DeviceFleet.Store.Error

/-!
# Event store errors

Recording an event fails when the event store fails, or when the effect the event stands for
fails; the latter names the event and its source and carries the effect's own message.
-/

namespace DeviceFleet.Events

/-- Why recording an event failed. -/
inductive EventStoreError where
  | store (e : Store.StoreError)
  | effectFailed (contextId sourceService message : String)
  deriving DecidableEq, Repr

namespace EventStoreError

def message : EventStoreError → String
  | .store e => "Event store unavailable: " ++ e.message
  | .effectFailed c s m => "Effect for event " ++ c ++ " from " ++ s ++ " failed: " ++ m

def kind : EventStoreError → String
  | .store _ => "Store"
  | .effectFailed .. => "EffectFailed"

def shown : EventStoreError → String
  | .store e => "Store(" ++ e.shown ++ ")"
  | .effectFailed c s m =>
    "EffectFailed \x7b context_id: " ++ Text.quoteShown c ++ ", source_service: " ++
      Text.quoteShown s ++ ", source: " ++ m ++ " \x7d"

def causes : EventStoreError → List String
  | .store e => [e.message]
  | .effectFailed _ _ m => [m]

end EventStoreError

end DeviceFleet.Events
