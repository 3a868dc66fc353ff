import DeviceFleet.Command.Operation
import DeviceFleet.Store.Error

/-!
# Operations in memory

Operations are kept by identifier, in the order they were created. A write must present the
version it read and bumps it; a change is made by reading, changing and writing, and a change
that changes nothing is not written.
-/

namespace DeviceFleet.Command

open Store

/-- All operations. -/
structure OperationStore where
  operations : List Operation := []
  deriving Inhabited, DecidableEq

namespace OperationStore

def count (s : OperationStore) : Nat :=
  s.operations.length

def find (s : OperationStore) (id : Uuid) : Option Operation :=
  s.operations.find? (·.operationId == id)

def create (s : OperationStore) (op : Operation) : Except StoreError OperationStore :=
  if (s.find op.operationId).isSome then .error (.duplicate "operation" op.operationId.text)
  else .ok { operations := s.operations ++ [op] }

/-- Write an operation read at its version. -/
def update (s : OperationStore) (op : Operation) : Except StoreError OperationStore :=
  match s.find op.operationId with
  | none => .error (.notFound "operation" op.operationId.text)
  | some stored =>
    if stored.version ≠ op.version then
      .error (.conflict "operation" op.operationId.text op.version stored.version)
    else
      let op := { op with version := op.version + 1 }
      .ok { operations := s.operations.map fun x => if x.operationId == op.operationId then op else x }

/-- Read, change and write an operation; answers whether the change changed anything. -/
def modify (s : OperationStore) (id : Uuid) (change : Operation → Bool × Operation) :
    Except StoreError (Bool × OperationStore) :=
  match s.find id with
  | none => .error (.notFound "operation" id.text)
  | some op =>
    let (changed, op) := change op
    if !changed then .ok (false, s)
    else (s.update op).map fun s => (true, s)

theorem create_find (s s' : OperationStore) (op : Operation) (h : s.create op = .ok s') :
    (s'.find op.operationId).isSome = true := by
  unfold create at h
  split at h
  · cases h
  · cases h
    simp [find, List.find?_append]

end OperationStore

/-! ## Changes under way together

Several changes may be under way on one store at once. Each reads the operation, changes it
and writes it back, and every read and every write is one step of the store: between two steps
of one change, the others may take theirs. A write that finds another write came in between
fails with a conflict, and the change is tried again on the operation read afresh, up to
`updateAttempts` tries in all.
-/

def updateAttempts : Nat := 3

/-- Where one change stands. -/
inductive Attempt where
  /-- About to read, with `left` tries left and the conflict the last try met, if any. -/
  | reading (left : Nat) (conflict : Option StoreError)
  /-- About to write the changed operation, with `left` tries left after this one. -/
  | writing (left : Nat) (op : Operation)
  /-- Over, answering whether the change was stored. -/
  | done (result : Except StoreError Bool)

/-- A change of the operation filed under `id`, and where it stands. -/
structure Modification where
  id : Uuid
  change : Change
  attempt : Attempt := .reading updateAttempts none

/-- The next step of a change at instant `now`: the store after it, and the change. -/
def Modification.act (s : OperationStore) (now : Int) (m : Modification) :
    OperationStore × Modification :=
  match m.attempt with
  | .reading 0 conflict =>
    (s, { m with attempt := .done (.error (conflict.getD (.backend "update retries exhausted"))) })
  | .reading (left + 1) _ =>
    match s.find m.id with
    | none => (s, { m with attempt := .done (.error (.notFound "operation" m.id.text)) })
    | some op =>
      let (changed, op) := m.change.apply now op
      if changed then (s, { m with attempt := .writing left op })
      else (s, { m with attempt := .done (.ok false) })
  | .writing left op =>
    match s.update op with
    | .ok s' => (s', { m with attempt := .done (.ok true) })
    | .error e =>
      if e.isConflict then (s, { m with attempt := .reading left (some e) })
      else (s, { m with attempt := .done (.error e) })
  | .done _ => (s, m)

/-- A store and the changes under way on it, by the order they began in. -/
structure Modifications where
  store : OperationStore
  changes : List Modification := []

/-- What can happen next: a change begins, or the `i`-th change takes its next step at
instant `now`. -/
inductive ModificationEvent where
  | begin (id : Uuid) (change : Change)
  | act (i : Nat) (now : Int)

namespace Modifications

/-- What an event does. -/
def step (w : Modifications) : ModificationEvent → Modifications
  | .begin id change => { w with changes := w.changes ++ [{ id, change }] }
  | .act i now =>
    match w.changes[i]? with
    | none => w
    | some m =>
      let (s, m) := m.act w.store now
      { store := s, changes := w.changes.set i m }

def run (w : Modifications) (evs : List ModificationEvent) : Modifications :=
  evs.foldl step w

end Modifications

end DeviceFleet.Command
