import DeviceFleet.Events.Recorder
import DeviceFleet.Protocol.Canonical

/-!
# House-keeping of the event store

One pass reads the processed records after its node's cursor in batches of `replayBatch`, each
a store read of its own, until one comes back short, replaying to the node what other nodes
processed; it then saves its cursor and purges what every consumer has read.
-/

namespace DeviceFleet.Events

/-- What a pass did: events replayed, records purged, and the node's cursor after it. -/
structure HousekeepingReport where
  replayed : Nat
  purged : Nat
  cursor : Nat
  deriving DecidableEq, Repr

def replayBatch : Nat := 256

/-- Replay the records to a node that did not process them, moving the cursor past each;
answers the count replayed, the cursor, and the last cursor a record moved it to (`none` when
there were no records). -/
def replay (r : Recorder) (cursor : Nat) :
    List EventRecord → Recorder × Nat × Nat × Option Nat
  | [] => (r, 0, cursor, none)
  | x :: xs =>
    let (r, n) := if x.originNode != r.nodeId then (r.notify x.event, 1) else (r, 0)
    let c := max cursor x.sequence
    let (r, m, c', _) := replay r c xs
    (r, n + m, c', some c')

theorem replay_cursor_ge (r : Recorder) (cursor : Nat) (xs : List EventRecord) :
    cursor ≤ (replay r cursor xs).2.2.1 := by
  induction xs generalizing r cursor with
  | nil => simp [replay]
  | cons x xs ih =>
    simp only [replay]
    split
    all_goals exact Nat.le_trans (Nat.le_max_left _ _) (ih _ _)

theorem sequence_le_replay_cursor (r : Recorder) (cursor : Nat) {xs : List EventRecord}
    {x : EventRecord} (hx : x ∈ xs) : x.sequence ≤ (replay r cursor xs).2.2.1 := by
  induction xs generalizing r cursor with
  | nil => cases hx
  | cons y ys ih =>
    simp only [replay]
    rcases List.mem_cons.mp hx with rfl | hy
    · split
      all_goals exact Nat.le_trans (Nat.le_max_right _ _) (replay_cursor_ge _ _ _)
    · split
      all_goals exact ih _ _ hy

/-- Reading on from a later cursor, past a processed record the earlier cursor had still to
read, leaves fewer processed records to read. -/
theorem pending_lt {s : EventStore} {a b : Nat} {x : EventRecord} (hab : a ≤ b)
    (hx : x ∈ s.records) (hp : x.status = .processed) (hax : a < x.sequence)
    (hxb : x.sequence ≤ b) :
    (s.records.filter fun y => y.status == .processed && b < y.sequence).length <
      (s.records.filter fun y => y.status == .processed && a < y.sequence).length := by
  have heq : (s.records.filter fun y => y.status == .processed && b < y.sequence) =
      (s.records.filter fun y => y.status == .processed && a < y.sequence).filter
        fun y => b < y.sequence := by
    rw [List.filter_filter]
    refine List.filter_congr fun y _ => ?_
    by_cases hy : b < y.sequence
    · simp [hy, Nat.lt_of_le_of_lt hab hy]
    · simp [hy]
  have hsub : (s.records.filter fun y => y.status == .processed && b < y.sequence).Sublist
      (s.records.filter fun y => y.status == .processed && a < y.sequence) := by
    rw [heq]
    exact List.filter_sublist
  refine Nat.lt_of_le_of_ne hsub.length_le fun hlen => ?_
  have hin : x ∈ s.records.filter fun y => y.status == .processed && a < y.sequence :=
    List.mem_filter.mpr ⟨hx, by simp [hp, hax]⟩
  rw [← hsub.eq_of_length hlen] at hin
  simp only [List.mem_filter, Bool.and_eq_true, beq_iff_eq, decide_eq_true_eq] at hin
  omega

/-- Replay the processed records after `cursor` batch by batch, each batch a read of at most
`replayBatch` records on from the cursor the batch before reached, until a batch comes back
short; answers as `replay` does, the last cursor a record moved it to taken over all batches. -/
def replayBatches (s : EventStore) (r : Recorder) (cursor : Nat) :
    Recorder × Nat × Nat × Option Nat :=
  let batch := s.processedAfter cursor replayBatch
  let p := replay r cursor batch
  if _hb : batch.length < replayBatch then p
  else
    let q := replayBatches s p.1 p.2.2.1
    (q.1, p.2.1 + q.2.1, q.2.2.1, q.2.2.2.or p.2.2.2)
termination_by (s.records.filter fun x => x.status == .processed && cursor < x.sequence).length
decreasing_by
  -- a full batch is not empty, and its first record lies between the two cursors
  obtain ⟨x, hx⟩ : ∃ x, x ∈ s.processedAfter cursor replayBatch :=
    List.exists_mem_of_ne_nil _ fun he => by
      rw [show batch = [] from he] at _hb
      simp [replayBatch] at _hb
  obtain ⟨hxr, hxp, hlt⟩ := EventStore.of_mem_processedAfter hx
  exact pending_lt (replay_cursor_ge ..) hxr hxp hlt (sequence_le_replay_cursor r cursor hx)

/-- One pass of house-keeping for a node whose keeper has read up to `keeperCursor`; answers
the report, the keeper's cursor after the pass, the store and the node's recorder. -/
def housekeep (s : EventStore) (r : Recorder) (keeperCursor retention : Nat) (now : Int) :
    HousekeepingReport × Nat × EventStore × Recorder :=
  let saved := (s.loadCursor r.nodeId).getD 0
  let start := max keeperCursor saved
  let (r, replayed, cursor, moved) := replayBatches s r start
  let s := s.saveCursor r.nodeId cursor
  let floor := min ((s.minCursor).getD cursor) cursor
  let olderThan := now - retention
  let (purged, s) :=
    if minInstant * 1000 ≤ olderThan then s.purgeProcessed floor olderThan else (0, s)
  (⟨replayed, purged, cursor⟩, moved.getD keeperCursor, s, r)

end DeviceFleet.Events
