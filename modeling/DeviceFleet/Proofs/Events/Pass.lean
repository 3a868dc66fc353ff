import DeviceFleet.Proofs.Events.StoreLaws
import DeviceFleet.Events.Housekeeping

/-!
# One pass of house-keeping

Taken alone, a pass's batches together read the processed records after where it starts
(`replayBatches_eq`); its store calls are separate, though, and a cursor saved between another
pass's reading of the floor and its purge counts for nothing.
-/

namespace DeviceFleet.Events

namespace EventStore

variable {s : EventStore}

/-! ### Records in sequence order -/

theorem pairwise_insertBySequence (r : EventRecord) {l : List EventRecord}
    (h : l.Pairwise fun a b => a.sequence ≤ b.sequence) :
    (insertBySequence r l).Pairwise fun a b => a.sequence ≤ b.sequence := by
  induction l with
  | nil => simp [insertBySequence]
  | cons x xs ih =>
    obtain ⟨hx, hxs⟩ := List.pairwise_cons.mp h
    unfold insertBySequence
    split
    · rename_i hlt
      refine List.Pairwise.cons (fun y hy => ?_) h
      rcases List.mem_cons.mp hy with rfl | hy
      · exact Nat.le_of_lt hlt
      · exact Nat.le_trans (Nat.le_of_lt hlt) (hx y hy)
    · rename_i hlt
      refine List.Pairwise.cons (fun y hy => ?_) (ih hxs)
      rcases List.mem_cons.mp ((insertBySequence_perm r xs).mem_iff.mp hy) with rfl | hy
      · exact Nat.le_of_not_lt hlt
      · exact hx y hy

theorem pairwise_sortBySequence (rs : List EventRecord) :
    (sortBySequence rs).Pairwise fun a b => a.sequence ≤ b.sequence := by
  suffices h : ∀ acc : List EventRecord, acc.Pairwise (fun a b => a.sequence ≤ b.sequence) →
      (rs.foldl (fun acc r => insertBySequence r acc) acc).Pairwise
        fun a b => a.sequence ≤ b.sequence from h [] .nil
  induction rs with
  | nil => exact fun acc h => h
  | cons r rs ih => exact fun acc h => ih _ (pairwise_insertBySequence r h)

/-! ### What a pass reads -/

theorem processedAfter_all (s : EventStore) (a : Nat) :
    s.processedAfter a s.records.length =
      sortBySequence (s.records.filter fun r => r.status == .processed && a < r.sequence) := by
  unfold processedAfter
  apply List.take_of_length_le
  rw [(sortBySequence_perm _).length_eq]
  exact List.length_filter_le _ _

theorem mem_processedAfter {a : Nat} {x : EventRecord} :
    x ∈ s.processedAfter a s.records.length ↔
      x ∈ s.records ∧ x.status = .processed ∧ a < x.sequence := by
  rw [processedAfter_all, (sortBySequence_perm _).mem_iff]
  simp

theorem filterMap_seqOf (l : List EventRecord) :
    l.filterMap seqOf = (l.filter fun r => r.status == .processed).map (·.sequence) := by
  induction l with
  | nil => rfl
  | cons x xs ih => by_cases hx : x.status = .processed <;> simp [seqOf, hx, ih]

theorem pairwise_ne_processed (hd : (s.records.filterMap seqOf).Nodup) :
    (s.records.filter fun r => r.status == .processed).Pairwise
      fun x y => x.sequence ≠ y.sequence := by
  rw [filterMap_seqOf] at hd
  exact List.pairwise_map.mp hd

theorem processedAfter_eq_take (s : EventStore) (a n : Nat) :
    s.processedAfter a n = (s.processedAfter a s.records.length).take n := by
  rw [processedAfter_all]
  rfl

theorem processedAfter_sorted (hd : (s.records.filterMap seqOf).Nodup) (a n : Nat) :
    (s.processedAfter a n).Pairwise fun x y => x.sequence < y.sequence := by
  have hne : (s.records.filter fun r => r.status == .processed && a < r.sequence).Pairwise
      fun x y => x.sequence ≠ y.sequence :=
    (pairwise_ne_processed hd).sublist
      (List.monotone_filter_right _ fun r h => by simp_all)
  rw [processedAfter_eq_take, processedAfter_all]
  refine List.Pairwise.sublist (List.take_sublist _ _) ?_
  refine ((pairwise_sortBySequence _).and
    ((sortBySequence_perm _).pairwise_iff (fun h => Ne.symm h) |>.mpr hne)).imp ?_
  exact fun h => Nat.lt_of_le_of_ne h.1 h.2

theorem nodup_of_sorted {l : List EventRecord}
    (hl : l.Pairwise fun x y => x.sequence < y.sequence) : l.Nodup :=
  hl.imp fun h hxy => by
    subst hxy
    exact Nat.lt_irrefl _ h

theorem processedAfter_of_short {a n : Nat} (h : (s.processedAfter a n).length < n) :
    s.processedAfter a n = s.processedAfter a s.records.length := by
  rw [processedAfter_eq_take] at h ⊢
  rw [List.length_take] at h
  exact List.take_of_length_le (by omega)

theorem mem_take_of_le {l : List EventRecord}
    (hl : l.Pairwise fun x y => x.sequence < y.sequence) {k : Nat} {x y : EventRecord}
    (hx : x ∈ l) (hy : y ∈ l.take k) (hxy : x.sequence ≤ y.sequence) : x ∈ l.take k := by
  rw [← List.take_append_drop k l] at hl hx
  rcases List.mem_append.mp hx with hx | hx
  · exact hx
  · exact absurd hxy (Nat.not_le_of_lt ((List.pairwise_append.mp hl).2.2 y hy x hx))

theorem mem_processedAfter_of_le (hd : (s.records.filterMap seqOf).Nodup) {a n : Nat}
    {x y : EventRecord} (hx : x ∈ s.records) (hp : x.status = .processed)
    (hlt : a < x.sequence) (hy : y ∈ s.processedAfter a n) (hxy : x.sequence ≤ y.sequence) :
    x ∈ s.processedAfter a n := by
  rw [processedAfter_eq_take] at hy ⊢
  exact mem_take_of_le (processedAfter_sorted hd a _) (mem_processedAfter.mpr ⟨hx, hp, hlt⟩) hy hxy

theorem nodup_keys_processedAfter (hn : (s.records.map (·.key)).Nodup) (a n : Nat) :
    ((s.processedAfter a n).map (·.key)).Nodup := by
  have hall : ((s.processedAfter a s.records.length).map (·.key)).Nodup := by
    rw [processedAfter_all]
    exact ((sortBySequence_perm _).map _).nodup_iff.mpr
      (hn.sublist ((List.filter_sublist ..).map _))
  rw [processedAfter_eq_take]
  exact hall.sublist ((List.take_sublist ..).map _)

/-! ### Cursors -/

theorem mem_of_lookup {l : SortedMap Nat} {c : String} {v : Nat} (h : l.lookup c = some v) :
    (c, v) ∈ l := by
  obtain ⟨l₁, l₂, rfl, -⟩ := List.lookup_eq_some_iff.mp h
  simp

def lowest (acc : Option Nat) (x : String × Nat) : Option Nat :=
  some (match acc with
    | some m => min m x.2
    | none => x.2)

theorem minCursor_eq (s : EventStore) : s.minCursor = s.cursors.foldl lowest none := rfl

theorem foldl_lowest :
    ∀ (l : SortedMap Nat) (a : Nat),
      ∃ m, l.foldl lowest (some a) = some m ∧ m ≤ a ∧ ∀ p ∈ l, m ≤ p.2
  | [], a => ⟨a, rfl, Nat.le_refl a, by simp⟩
  | p :: l, a => by
    obtain ⟨m, hf, ha, hl⟩ := foldl_lowest l (min a p.2)
    refine ⟨m, hf, Nat.le_trans ha (Nat.min_le_left a p.2), fun q hq => ?_⟩
    rcases List.mem_cons.mp hq with rfl | hq
    · exact Nat.le_trans ha (Nat.min_le_right a q.2)
    · exact hl q hq

theorem minCursor_le {c : String} {v : Nat} (h : s.loadCursor c = some v) :
    ∃ m, s.minCursor = some m ∧ m ≤ v := by
  have hm : (c, v) ∈ s.cursors := mem_of_lookup h
  rw [minCursor_eq]
  cases hc : s.cursors with
  | nil => rw [hc] at hm; cases hm
  | cons p l =>
    rw [hc] at hm
    obtain ⟨m, hf, hp, hl⟩ := foldl_lowest l p.2
    refine ⟨m, hf, ?_⟩
    rcases List.mem_cons.mp hm with rfl | hm
    · exact hp
    · exact hl _ hm

end EventStore

/-! ### Replaying -/

@[simp] theorem Recorder.notify_nodeId (r : Recorder) (e : ServiceEvent) :
    (r.notify e).nodeId = r.nodeId := rfl

theorem replay_recorder (r : Recorder) (c : Nat) (xs : List EventRecord) :
    (replay r c xs).1 =
      (xs.filter (·.originNode != r.nodeId)).foldl (fun r x => r.notify x.event) r := by
  induction xs generalizing r c with
  | nil => rfl
  | cons x xs ih =>
    simp only [replay]
    by_cases hx : (x.originNode != r.nodeId) = true
    · simp only [hx, if_true, List.filter_cons, List.foldl_cons]
      rw [ih, Recorder.notify_nodeId]
    · simp only [hx, Bool.false_eq_true, if_false, List.filter_cons]
      exact ih r _

theorem replay_cursor (r : Recorder) (c : Nat) (xs : List EventRecord) :
    (replay r c xs).2.2.1 = xs.foldl (fun c x => max c x.sequence) c := by
  induction xs generalizing r c with
  | nil => rfl
  | cons x xs ih =>
    simp only [replay]
    split <;> exact ih _ _

theorem replay_moved (r : Recorder) (c : Nat) (xs : List EventRecord) :
    (replay r c xs).2.2.2 = if xs = [] then none else some (replay r c xs).2.2.1 := by
  cases xs with
  | nil => rfl
  | cons x xs =>
    simp only [replay]
    split <;> rfl

theorem replay_nodeId (r : Recorder) (c : Nat) (xs : List EventRecord) :
    (replay r c xs).1.nodeId = r.nodeId := by
  rw [replay_recorder]
  generalize xs.filter _ = ys
  induction ys generalizing r with
  | nil => rfl
  | cons y ys ih => exact (ih _).trans (Recorder.notify_nodeId r y.event)

theorem le_foldl_max (c : Nat) (xs : List EventRecord) :
    c ≤ xs.foldl (fun c x => max c x.sequence) c ∧
      ∀ x ∈ xs, x.sequence ≤ xs.foldl (fun c x => max c x.sequence) c := by
  induction xs generalizing c with
  | nil => simp
  | cons x xs ih =>
    obtain ⟨h₁, h₂⟩ := ih (max c x.sequence)
    refine ⟨Nat.le_trans (Nat.le_max_left c _) h₁, fun y hy => ?_⟩
    rcases List.mem_cons.mp hy with rfl | hy
    · exact Nat.le_trans (Nat.le_max_right c _) h₁
    · exact h₂ y hy

theorem foldl_max_le {c b : Nat} {xs : List EventRecord} (hc : c ≤ b)
    (hx : ∀ x ∈ xs, x.sequence ≤ b) : xs.foldl (fun c x => max c x.sequence) c ≤ b := by
  induction xs generalizing c with
  | nil => exact hc
  | cons x xs ih =>
    exact ih (Nat.max_le.mpr ⟨hc, hx x (List.mem_cons_self ..)⟩)
      fun y hy => hx y (List.mem_cons_of_mem _ hy)

theorem exists_le_of_le_foldl_max {c n : Nat} {xs : List EventRecord} (hc : c < n)
    (hn : n ≤ xs.foldl (fun c x => max c x.sequence) c) : ∃ x ∈ xs, n ≤ x.sequence := by
  induction xs generalizing c with
  | nil => exact absurd hn (Nat.not_le_of_lt hc)
  | cons x xs ih =>
    by_cases hx : n ≤ x.sequence
    · exact ⟨x, List.mem_cons_self .., hx⟩
    · obtain ⟨y, hy, hle⟩ := ih (c := max c x.sequence) (Nat.max_lt.mpr ⟨hc, by omega⟩) hn
      exact ⟨y, List.mem_cons_of_mem _ hy, hle⟩

theorem listeners_foldl_notify (xs : List EventRecord) (r : Recorder) :
    (xs.foldl (fun r x => r.notify x.event) r).listeners.map (·.received) =
      r.listeners.map fun l => l.received ++ xs.map (·.event.contextId) := by
  induction xs generalizing r with
  | nil => simp
  | cons x xs ih =>
    rw [List.foldl_cons, ih]
    simp only [Recorder.notify, List.map_map, List.map_cons]
    refine List.map_congr_left fun l _ => ?_
    simp [Listener.tell]

theorem replay_append (r : Recorder) (c : Nat) (xs ys : List EventRecord) :
    replay r c (xs ++ ys) =
      let p := replay r c xs
      let q := replay p.1 p.2.2.1 ys
      (q.1, p.2.1 + q.2.1, q.2.2.1, q.2.2.2.or p.2.2.2) := by
  induction xs generalizing r c with
  | nil => simp only [List.nil_append, replay, Nat.zero_add, Option.or_none]
  | cons x xs ih =>
    simp only [List.cons_append, replay]
    split
    all_goals
      rw [ih]
      simp only [Nat.add_assoc]
      rw [replay_moved _ _ ys]
      rcases ys with _ | ⟨y, ys⟩
      · rfl
      · simp

/-! ### Reading in batches -/

namespace EventStore

variable {s : EventStore}

/-- The records after where a read starts are the records it returns and then those after the
last of them. -/
theorem processedAfter_split (hd : (s.records.filterMap seqOf).Nodup) (a n : Nat) :
    s.processedAfter a s.records.length = s.processedAfter a n ++
      s.processedAfter ((s.processedAfter a n).foldl (fun c x => max c x.sequence) a)
        s.records.length := by
  have hsort := processedAfter_sorted hd a s.records.length
  have hmem : ∀ x, x ∈ s.processedAfter a s.records.length ↔
      x ∈ s.records ∧ x.status = .processed ∧ a < x.sequence := fun _ => mem_processedAfter
  rw [processedAfter_eq_take s a n]
  generalize s.processedAfter a s.records.length = L at hsort hmem ⊢
  have hsplit : (L.take n ++ L.drop n).Pairwise fun x y => x.sequence < y.sequence := by
    rw [List.take_append_drop]
    exact hsort
  conv_lhs => rw [← List.take_append_drop n L]
  congr 1
  refine List.Perm.eq_of_pairwise (fun x y _ _ h₁ h₂ => absurd (Nat.lt_trans h₁ h₂)
    (Nat.lt_irrefl _)) (hsort.sublist (List.drop_sublist _ _)) (processedAfter_sorted hd _ _) ?_
  refine (List.perm_ext_iff_of_nodup (nodup_of_sorted (hsort.sublist (List.drop_sublist _ _)))
    (nodup_of_sorted (processedAfter_sorted hd _ _))).mpr fun x => ?_
  rw [mem_processedAfter]
  constructor
  · intro hx
    obtain ⟨hxr, hxp, hax⟩ := (hmem x).mp (List.mem_of_mem_drop hx)
    have hbelow : ∀ y ∈ L.take n, y.sequence ≤ x.sequence - 1 := fun y hy => by
      have := (List.pairwise_append.mp hsplit).2.2 y hy x hx
      omega
    have := foldl_max_le (c := a) (b := x.sequence - 1) (by omega) hbelow
    exact ⟨hxr, hxp, by omega⟩
  · rintro ⟨hxr, hxp, hcx⟩
    have hxL : x ∈ L.take n ++ L.drop n := by
      rw [List.take_append_drop]
      exact (hmem x).mpr ⟨hxr, hxp, Nat.lt_of_le_of_lt (le_foldl_max _ _).1 hcx⟩
    rcases List.mem_append.mp hxL with hxt | hxd
    · exact absurd ((le_foldl_max _ _).2 x hxt) (Nat.not_le.mpr hcx)
    · exact hxd

end EventStore

theorem replayBatches_eq {s : EventStore} (hd : (s.records.filterMap EventStore.seqOf).Nodup)
    (r : Recorder) (c : Nat) :
    replayBatches s r c = replay r c (s.processedAfter c s.records.length) := by
  fun_induction replayBatches s r c with
  | case1 r c batch p hb =>
    show replay r c (s.processedAfter c replayBatch) = _
    rw [EventStore.processedAfter_of_short hb]
  | case2 r c batch p hb q ih =>
    rw [EventStore.processedAfter_split hd c replayBatch, replay_append,
      ← replay_cursor r c (s.processedAfter c replayBatch)]
    simp only [q]
    rw [ih]

theorem replayBatches_nodeId (s : EventStore) (r : Recorder) (c : Nat) :
    (replayBatches s r c).1.nodeId = r.nodeId := by
  fun_induction replayBatches s r c with
  | case1 r c batch p hb => exact replay_nodeId r c _
  | case2 r c batch p hb q ih => exact ih.trans (replay_nodeId r c _)

/-! ### One pass -/

def passStart (s : EventStore) (r : Recorder) (keeper : Nat) : Nat :=
  max keeper ((s.loadCursor r.nodeId).getD 0)

def passFloor (s : EventStore) (cursor : Nat) : Nat :=
  min ((s.minCursor).getD cursor) cursor

def purgeOlder (s : EventStore) (floor retention : Nat) (now : Int) : Nat × EventStore :=
  if minInstant * 1000 ≤ now - retention then s.purgeProcessed floor (now - retention) else (0, s)

theorem passFloor_le_cursor (s : EventStore) (cursor : Nat) : passFloor s cursor ≤ cursor :=
  Nat.min_le_right _ _

theorem passFloor_le {s : EventStore} (cursor : Nat) {c : String} {v : Nat}
    (h : s.loadCursor c = some v) : passFloor s cursor ≤ v := by
  obtain ⟨m, hm, hmv⟩ := EventStore.minCursor_le h
  unfold passFloor
  rw [hm]
  exact Nat.le_trans (Nat.min_le_left _ _) hmv

@[simp] theorem EventStore.purgeOlder_cursors {s : EventStore} (f retention : Nat) (now : Int) :
    (purgeOlder s f retention now).2.cursors = s.cursors := by
  unfold purgeOlder
  split <;> rfl

@[simp] theorem EventStore.loadCursor_purgeOlder {s : EventStore} (f retention : Nat) (now : Int)
    (c : String) : (purgeOlder s f retention now).2.loadCursor c = s.loadCursor c := by
  show (purgeOlder s f retention now).2.cursors.lookup c = _
  rw [purgeOlder_cursors]
  rfl

theorem EventStore.sequence_le_of_not_mem_purgeOlder {s : EventStore} {f retention : Nat}
    {now : Int} {x : EventRecord} (hx : x ∈ s.records)
    (hgone : x ∉ (purgeOlder s f retention now).2.records) : x.sequence ≤ f := by
  unfold purgeOlder at hgone
  split at hgone
  · have hp : purgeable f (now - retention) x = true := by
      by_contra hn
      exact hgone (List.mem_filter.mpr ⟨hx, by simpa using hn⟩)
    simp only [purgeable, Bool.and_eq_true, decide_eq_true_eq] at hp
    exact hp.1.2
  · exact absurd hx hgone

theorem housekeep_eq (s : EventStore) (r : Recorder) (keeper retention : Nat) (now : Int) :
    housekeep s r keeper retention now =
      let (r', n, cursor, moved) := replayBatches s r (passStart s r keeper)
      let s₁ := s.saveCursor r'.nodeId cursor
      let (p, s₂) := purgeOlder s₁ (passFloor s₁ cursor) retention now
      (⟨n, p, cursor⟩, moved.getD keeper, s₂, r') := rfl

section Pass

variable (s : EventStore) (r : Recorder) (keeper retention : Nat) (now : Int)

theorem housekeep_recorder :
    (housekeep s r keeper retention now).2.2.2 = (replayBatches s r (passStart s r keeper)).1 :=
  rfl

theorem housekeep_cursor :
    (housekeep s r keeper retention now).1.cursor =
      (replayBatches s r (passStart s r keeper)).2.2.1 := rfl

theorem loadCursor_housekeep (c : String) :
    (housekeep s r keeper retention now).2.2.1.loadCursor c =
      (s.saveCursor r.nodeId (housekeep s r keeper retention now).1.cursor).loadCursor c := by
  show (purgeOlder (s.saveCursor (replayBatches s r (passStart s r keeper)).1.nodeId
    (replayBatches s r (passStart s r keeper)).2.2.1) _ retention now).2.loadCursor c = _
  rw [EventStore.loadCursor_purgeOlder, replayBatches_nodeId]
  rfl

theorem loadCursor_housekeep_self :
    (housekeep s r keeper retention now).2.2.1.loadCursor r.nodeId =
      some (max ((s.loadCursor r.nodeId).getD 0) (housekeep s r keeper retention now).1.cursor) := by
  rw [loadCursor_housekeep]
  exact EventStore.saveCursor_load s r.nodeId _

theorem loadCursor_housekeep_ge {c : String} {v : Nat} (h : s.loadCursor c = some v) :
    ∃ v', (housekeep s r keeper retention now).2.2.1.loadCursor c = some v' ∧ v ≤ v' := by
  rw [loadCursor_housekeep]
  exact EventStore.loadCursor_perform (.saveCursor r.nodeId _) default c h

/-- Taken alone, a pass of a store whose processed records carry distinct numbers tells its
node's listeners, in sequence order, of every event another node processed after where it
starts. -/
theorem housekeep_heard (hd : (s.records.filterMap EventStore.seqOf).Nodup) :
    (housekeep s r keeper retention now).2.2.2.listeners.map (·.received) =
      r.listeners.map fun l => l.received ++
        ((s.processedAfter (passStart s r keeper) s.records.length).filter
          (·.originNode != r.nodeId)).map (·.event.contextId) := by
  rw [housekeep_recorder, replayBatches_eq hd, replay_recorder, listeners_foldl_notify]

theorem housekeep_caught_up (hd : (s.records.filterMap EventStore.seqOf).Nodup)
    {x : EventRecord} (hx : x ∈ s.records) (hp : x.status = .processed) :
    x.sequence ≤ (housekeep s r keeper retention now).1.cursor := by
  rw [housekeep_cursor, replayBatches_eq hd, replay_cursor]
  by_cases hlt : passStart s r keeper < x.sequence
  · exact (le_foldl_max _ _).2 x (EventStore.mem_processedAfter.mpr ⟨hx, hp, hlt⟩)
  · exact Nat.le_trans (Nat.le_of_not_lt hlt) (le_foldl_max _ _).1

variable {s} in
/-- A record a pass removes from the store is numbered at most every cursor saved once the
pass ends: the floor it purges up to is read after its own cursor is saved, over the cursors
of every node. -/
theorem purged_le_cursor {x : EventRecord} (hx : x ∈ s.records)
    (hx' : x ∉ (housekeep s r keeper retention now).2.2.1.records) {c : String} {v : Nat}
    (hc : (housekeep s r keeper retention now).2.2.1.loadCursor c = some v) : x.sequence ≤ v := by
  rw [housekeep_eq] at hx' hc
  generalize replayBatches s r (passStart s r keeper) = p at hx' hc
  obtain ⟨r', n, cur, moved⟩ := p
  dsimp only at hx' hc
  generalize hs₁ : s.saveCursor r'.nodeId cur = s₁ at hx' hc
  have hmem : x ∈ s₁.records := by rw [← hs₁]; exact hx
  rw [EventStore.loadCursor_purgeOlder] at hc
  calc x.sequence ≤ passFloor s₁ cur := EventStore.sequence_le_of_not_mem_purgeOlder hmem hx'
    _ ≤ v := passFloor_le cur hc

end Pass

end DeviceFleet.Events
