import DeviceFleet.Events.Event
import DeviceFleet.Protocol.Uuid
import DeviceFleet.Store.Error
import DeviceFleet.Collections.SortedMap

/-!
# The event store

One record per event identity, claimed under a lease and a token and marked processed with
the next number of a store-wide sequence; consumers keep cursors into the sequence, and a
purged event leaves a tombstone. Instants and leases are counted in microseconds.
-/

namespace DeviceFleet.Events

open Store

/-- Whether an event's effect has been applied. -/
inductive EventStatus where
  | unprocessed
  | processed
  deriving DecidableEq, Repr, Inhabited

def EventStatus.name : EventStatus → String
  | .unprocessed => "UNPROCESSED"
  | .processed => "PROCESSED"

/-- The store's record of one event. The sequence is 0 until the record is processed. -/
structure EventRecord where
  recordId : Uuid
  event : ServiceEvent
  status : EventStatus
  inFlight : Bool
  originNode : String
  recordedOn : Int
  claimedOn : Option Int
  claimToken : Uuid
  sequence : Nat
  deriving Inhabited

namespace EventRecord

def key (r : EventRecord) : EventKey :=
  r.event.key

/-- Whether a claim taken for `lease` has run out by `now`. A record that is not held has no
lease to run out. -/
def leaseExpired (r : EventRecord) (lease : Nat) (now : Int) : Bool :=
  match r.claimedOn with
  | none => true
  | some t => decide (t + lease ≤ now)

end EventRecord

/-- What a claim finds. -/
inductive ClaimOutcome where
  | claimed (record : EventRecord)
  | alreadyProcessed
  | inFlight
  deriving Inhabited

/-- The records (one per event identity), the index from record ids to the identities their
records are filed under, the tombstones of purged events with the sequence they were processed
at, the consumers' cursors and the last sequence number handed out. -/
structure EventStore where
  records : List EventRecord := []
  keysById : List (Uuid × EventKey) := []
  tombstones : List (EventKey × Nat) := []
  cursors : SortedMap Nat := []
  lastSequence : Nat := 0
  deriving Inhabited

namespace EventStore

def missing (id : Uuid) : StoreError :=
  .notFound "event record" id.text

def find (s : EventStore) (key : EventKey) : Option EventRecord :=
  s.records.find? (·.key == key)

def byId (s : EventStore) (id : Uuid) : Option EventRecord :=
  (s.keysById.lookup id).bind s.find

def put (s : EventStore) (r : EventRecord) : EventStore :=
  { s with records := s.records.map fun x => if x.key == r.key then r else x }

def isTombstoned (s : EventStore) (key : EventKey) : Bool :=
  s.tombstones.any (·.1 == key)

/-- Try to take ownership of an event for `lease` on behalf of `node`. Fresh ids (record id,
then claim token) come from `ids`. -/
def claim (s : EventStore) (e : ServiceEvent) (node : String) (lease : Nat) (now : Int)
    (ids : UuidSource) : ClaimOutcome × EventStore × UuidSource :=
  if s.isTombstoned e.key then (.alreadyProcessed, s, ids)
  else
    match s.find e.key with
    | some r =>
      if r.status == .processed then (.alreadyProcessed, s, ids)
      else if r.inFlight && !r.leaseExpired lease now then (.inFlight, s, ids)
      else
        let (token, ids) := ids.next
        let r := { r with inFlight := true, originNode := node, claimedOn := some now,
                          claimToken := token }
        (.claimed r, s.put r, ids)
    | none =>
      let (id, ids) := ids.next
      let (token, ids) := ids.next
      let r : EventRecord :=
        { recordId := id, event := e, status := .unprocessed, inFlight := true,
          originNode := node, recordedOn := now, claimedOn := some now, claimToken := token,
          sequence := 0 }
      (.claimed r,
        { s with records := s.records ++ [r],
                 keysById := s.keysById.filter (·.1 != id) ++ [(id, e.key)] }, ids)

/-- Mark a record processed, numbering it next in the sequence. A record already processed
is answered as it is. -/
def markProcessed (s : EventStore) (id : Uuid) : Except StoreError (EventRecord × EventStore) :=
  match s.byId id with
  | none => .error (missing id)
  | some r =>
    if r.status == .processed then .ok (r, s)
    else
      let n := s.lastSequence + 1
      let r := { r with status := .processed, inFlight := false, claimedOn := none, sequence := n }
      .ok (r, { s.put r with lastSequence := n })

/-- Give up a claim. Only the holder of the current claim token releases an unprocessed
record; any other release leaves the record as it is. -/
def release (s : EventStore) (id token : Uuid) : Except StoreError EventStore :=
  match s.byId id with
  | none => .error (missing id)
  | some r =>
    if r.status == .unprocessed && r.claimToken == token then
      .ok (s.put { r with inFlight := false, claimedOn := none })
    else .ok s

def insertBySequence (r : EventRecord) : List EventRecord → List EventRecord
  | [] => [r]
  | x :: xs => if r.sequence < x.sequence then r :: x :: xs else x :: insertBySequence r xs

def sortBySequence (rs : List EventRecord) : List EventRecord :=
  rs.foldl (fun acc r => insertBySequence r acc) []

def processedAfter (s : EventStore) (after limit : Nat) : List EventRecord :=
  (sortBySequence (s.records.filter fun r => r.status == .processed && after < r.sequence)).take
    limit

theorem insertBySequence_perm (r : EventRecord) (l : List EventRecord) :
    (insertBySequence r l).Perm (r :: l) := by
  induction l with
  | nil => exact .refl _
  | cons x xs ih =>
    unfold insertBySequence
    split
    · exact .refl _
    · exact (ih.cons x).trans (.swap r x xs)

theorem sortBySequence_perm (rs : List EventRecord) : (sortBySequence rs).Perm rs := by
  suffices h : ∀ acc,
      (rs.foldl (fun acc r => insertBySequence r acc) acc).Perm (rs.reverse ++ acc) by
    have h₀ := h []
    rw [List.append_nil] at h₀
    exact h₀.trans (List.reverse_perm rs)
  induction rs with
  | nil => intro acc; exact .refl _
  | cons r rs ih =>
    intro acc
    simp only [List.foldl_cons, List.reverse_cons, List.append_assoc, List.singleton_append]
    exact (ih _).trans ((insertBySequence_perm r acc).append_left _)

theorem of_mem_processedAfter {s : EventStore} {after limit : Nat} {x : EventRecord}
    (hx : x ∈ s.processedAfter after limit) :
    x ∈ s.records ∧ x.status = .processed ∧ after < x.sequence := by
  have hx' := (sortBySequence_perm _).mem_iff.mp (List.mem_of_mem_take hx)
  simpa using List.mem_filter.mp hx'

/-- Whether a record may be purged: processed, numbered at most `sequence`, and recorded
before `olderThan`. -/
def purgeable (sequence : Nat) (olderThan : Int) (r : EventRecord) : Bool :=
  r.status == .processed && r.sequence ≤ sequence && decide (r.recordedOn < olderThan)

/-- Remove the purgeable records and their ids from the index, leaving a tombstone for each;
answers how many went. -/
def purgeProcessed (s : EventStore) (sequence : Nat) (olderThan : Int) : Nat × EventStore :=
  let doomed := s.records.filter (purgeable sequence olderThan)
  (doomed.length,
    { s with
      records := s.records.filter fun r => !purgeable sequence olderThan r
      keysById := s.keysById.filter fun x => !doomed.any (·.recordId == x.1)
      tombstones := s.tombstones ++ doomed.map fun r => (r.key, r.sequence) })

def loadCursor (s : EventStore) (consumer : String) : Option Nat :=
  s.cursors.find? consumer

/-- Move a consumer's cursor forward; a cursor never moves back. -/
def saveCursor (s : EventStore) (consumer : String) (sequence : Nat) : EventStore :=
  { s with cursors := s.cursors.insert consumer (max ((s.loadCursor consumer).getD 0) sequence) }

def minCursor (s : EventStore) : Option Nat :=
  s.cursors.foldl (fun acc (_, n) => some (match acc with
    | some m => min m n
    | none => n)) none

theorem saveCursor_load (s : EventStore) (consumer : String) (sequence : Nat) :
    (s.saveCursor consumer sequence).loadCursor consumer =
      some (max ((s.loadCursor consumer).getD 0) sequence) := by
  simp [saveCursor, loadCursor, SortedMap.find_insert_self]

end EventStore

end DeviceFleet.Events
