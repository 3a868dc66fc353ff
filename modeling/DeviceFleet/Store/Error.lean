import DeviceFleet.Text.Decimal
import DeviceFleet.Text.Quoted

/-!
# Storage errors

What a store reports: a missing record, a record changed by someone else since it was read
(optimistic concurrency: every record carries a version that each write must match), a record
that already exists, or a failing backend.
-/

namespace DeviceFleet.Store

/-- A store's failure. -/
inductive StoreError where
  | notFound (entity id : String)
  | conflict (entity id : String) (expected found : Nat)
  | duplicate (entity id : String)
  | backend (message : String)
  deriving DecidableEq, Repr

namespace StoreError

def message : StoreError → String
  | .notFound e i => e ++ " not found: " ++ i
  | .conflict e i x f =>
    e ++ " " ++ i ++ " was modified concurrently (expected version " ++ Text.natText x ++
      ", found " ++ Text.natText f ++ ")"
  | .duplicate e i => e ++ " already exists: " ++ i
  | .backend m => "Storage backend error: " ++ m

def kind : StoreError → String
  | .notFound .. => "NotFound"
  | .conflict .. => "Conflict"
  | .duplicate .. => "Duplicate"
  | .backend _ => "Backend"

def isConflict : StoreError → Bool
  | .conflict .. => true
  | _ => false

def shown : StoreError → String
  | .notFound e i => "NotFound \x7b entity: " ++ Text.quoteShown e ++ ", id: " ++ Text.quoteShown i ++ " \x7d"
  | .conflict e i x f =>
    "Conflict \x7b entity: " ++ Text.quoteShown e ++ ", id: " ++ Text.quoteShown i ++
      ", expected: " ++ Text.natText x ++ ", found: " ++ Text.natText f ++ " \x7d"
  | .duplicate e i => "Duplicate \x7b entity: " ++ Text.quoteShown e ++ ", id: " ++ Text.quoteShown i ++ " \x7d"
  | .backend m => "Backend(" ++ Text.quoteShown m ++ ")"

end StoreError

end DeviceFleet.Store
