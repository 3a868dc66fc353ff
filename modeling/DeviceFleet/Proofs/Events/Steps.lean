import Mathlib.Data.List.Nodup
import Mathlib.Data.List.Perm.Basic
import DeviceFleet.Events.Recorder

/-!
# What each event-store operation does

For each operation, what it does to the record of an identity and to the index of record ids;
later proofs use these and never unfold the operations.
-/

namespace DeviceFleet.Events

namespace EventStore

variable {s : EventStore}

/-! ### Records by identity and by id -/

theorem find_eq_some {k : EventKey} {r : EventRecord} (h : s.find k = some r) :
    r ∈ s.records ∧ r.key = k :=
  ⟨List.mem_of_find?_eq_some h, by simpa using List.find?_some h⟩

theorem find_eq_none {k : EventKey} : s.find k = none ↔ ∀ r ∈ s.records, r.key ≠ k := by
  simp [find, List.find?_eq_none]

theorem find_of_mem (hn : (s.records.map (·.key)).Nodup) {r : EventRecord} (hr : r ∈ s.records) :
    s.find r.key = some r := by
  cases hf : s.find r.key with
  | none => exact absurd rfl (find_eq_none.mp hf r hr)
  | some x =>
    obtain ⟨hx, hk⟩ := find_eq_some hf
    rw [List.inj_on_of_nodup_map hn hx hr hk]

@[simp] theorem put_keysById (r : EventRecord) : (s.put r).keysById = s.keysById := rfl

@[simp] theorem put_tombstones (r : EventRecord) : (s.put r).tombstones = s.tombstones := rfl

@[simp] theorem put_cursors (r : EventRecord) : (s.put r).cursors = s.cursors := rfl

@[simp] theorem put_lastSequence (r : EventRecord) : (s.put r).lastSequence = s.lastSequence :=
  rfl

@[simp] theorem isTombstoned_put (r : EventRecord) : (s.put r).isTombstoned = s.isTombstoned :=
  rfl

@[simp] theorem map_key_put (r : EventRecord) :
    (s.put r).records.map (·.key) = s.records.map (·.key) := by
  simp only [put, List.map_map]
  apply List.map_congr_left
  intro x _
  by_cases h : x.key = r.key <;> simp [h]

theorem map_idKey_put {r : EventRecord}
    (h : ∀ x ∈ s.records, x.key = r.key → x.recordId = r.recordId) :
    (s.put r).records.map (fun x => (x.recordId, x.key)) =
      s.records.map fun x => (x.recordId, x.key) := by
  simp only [put, List.map_map]
  apply List.map_congr_left
  intro x hx
  by_cases hk : x.key = r.key
  · simp [hk, h x hx hk]
  · simp [hk]

theorem filterMap_put_perm {β : Type} [DecidableEq β] (f : EventRecord → Option β)
    (hn : (s.records.map (·.key)).Nodup) {x r : EventRecord} (hx : x ∈ s.records)
    (hk : x.key = r.key) :
    ((s.put r).records.filterMap f ++ (f x).toList).Perm
      (s.records.filterMap f ++ (f r).toList) := by
  obtain ⟨A, B, hAB⟩ := List.append_of_mem hx
  rw [hAB, List.map_append, List.map_cons, List.nodup_append, List.nodup_cons] at hn
  have hA : ∀ y ∈ A, y.key ≠ r.key := fun y hy he =>
    hn.2.2 y.key (List.mem_map_of_mem hy) x.key (List.mem_cons_self ..) (he.trans hk.symm)
  have hB : ∀ y ∈ B, y.key ≠ r.key := fun y hy he =>
    hn.2.1.1 (hk ▸ he ▸ List.mem_map_of_mem hy)
  have hput : (s.put r).records = A ++ r :: B := by
    simp only [put, hAB, List.map_append, List.map_cons, hk, beq_self_eq_true, if_true]
    congr 1
    · exact List.map_congr_left (fun y hy => by simp [hA y hy]) |>.trans (List.map_id' A)
    · congr 1
      exact List.map_congr_left (fun y hy => by simp [hB y hy]) |>.trans (List.map_id' B)
  rw [hput, hAB]
  rw [List.perm_iff_count]
  intro b
  cases hfx : f x <;> cases hfr : f r <;>
    simp [List.filterMap_append, hfx, hfr, List.count_append, List.count_cons]
  omega

theorem find_put_self {r : EventRecord} (h : (s.find r.key).isSome) :
    (s.put r).find r.key = some r := by
  obtain ⟨x, hx⟩ := Option.isSome_iff_exists.mp h
  have hp : ((·.key == r.key) ∘ fun x : EventRecord => if x.key == r.key then r else x) =
      (·.key == r.key) := by
    funext y
    by_cases hy : y.key = r.key <;> simp [hy]
  simp only [find, put, List.find?_map, hp]
  simp only [find] at hx
  rw [hx, Option.map_some, (find_eq_some hx).2]
  simp

theorem find_put_of_ne {r : EventRecord} {k : EventKey} (h : k ≠ r.key) :
    (s.put r).find k = s.find k := by
  have hp : ((·.key == k) ∘ fun x : EventRecord => if x.key == r.key then r else x) =
      fun x => x.key == k && !(x.key == r.key) := by
    funext y
    by_cases hy : y.key = r.key
    · simp [hy, Ne.symm h]
    · simp [hy]
  simp only [find, put, List.find?_map, hp]
  have hq : (fun x : EventRecord => x.key == k && !(x.key == r.key)) = (·.key == k) := by
    funext y
    by_cases hy : y.key = k
    · simp [hy, h]
    · simp [hy]
  rw [hq]
  cases hf : s.records.find? (·.key == k) with
  | none => rfl
  | some x =>
    have hx : x.key = k := by simpa using List.find?_some hf
    simp [hx, h]

theorem byId_eq_some {id : Uuid} {r : EventRecord} :
    s.byId id = some r ↔ ∃ k, s.keysById.lookup id = some k ∧ s.find k = some r := by
  simp [byId, Option.bind_eq_some_iff]

theorem find_of_byId {id : Uuid} {r : EventRecord} (h : s.byId id = some r) :
    s.find r.key = some r := by
  obtain ⟨k, -, hf⟩ := byId_eq_some.mp h
  rw [(find_eq_some hf).2]
  exact hf

theorem byId_put {id : Uuid} {r x : EventRecord} (h : s.byId id = some x) (hk : r.key = x.key) :
    (s.put r).byId id = some r := by
  obtain ⟨k, hl, hf⟩ := byId_eq_some.mp h
  have hkx : x.key = k := (find_eq_some hf).2
  refine byId_eq_some.mpr ⟨k, hl, ?_⟩
  rw [← hkx, ← hk]
  exact find_put_self (by rw [hk, hkx, hf]; rfl)

theorem lookup_filter_id (f : Uuid → Bool) (id : Uuid) :
    ∀ l : List (Uuid × EventKey),
      (l.filter fun x => f x.1).lookup id = if f id then l.lookup id else none
  | [] => by simp
  | (k, v) :: l => by
    simp only [List.filter_cons]
    by_cases hq : id = k
    · subst hq
      cases hf : f id <;> simp [hf, lookup_filter_id f id l]
    · have hb : (id == k) = false := beq_eq_false_iff_ne.mpr hq
      cases f k <;> simp [List.lookup_cons, hb, lookup_filter_id f id l]

/-! ### Claiming -/

/-- Whether a claim of the event filed under `key` succeeds at `now` with `lease`: the event
was never purged, and its record, if there is one, is unprocessed and not held under a live
lease. -/
def claimable (s : EventStore) (key : EventKey) (lease : Nat) (now : Int) : Bool :=
  !s.isTombstoned key &&
    match s.find key with
    | none => true
    | some r => r.status != .processed && (!r.inFlight || r.leaseExpired lease now)

theorem claim_cases (s : EventStore) (e : ServiceEvent) (node : String) (lease : Nat)
    (now : Int) (ids : UuidSource) :
    (s.claimable e.key lease now = true ∧
      ∃ r s' ids', s.claim e node lease now ids = (.claimed r, s', ids')) ∨
    (s.claimable e.key lease now = false ∧
      ∃ o, (o = .alreadyProcessed ∨ o = .inFlight) ∧ s.claim e node lease now ids = (o, s, ids)) := by
  unfold claimable claim
  cases ht : s.isTombstoned e.key with
  | true => simp
  | false =>
    cases hf : s.find e.key with
    | none => simp
    | some r =>
      by_cases hp : r.status = .processed
      · simp [hp]
      · by_cases hl : r.inFlight = true ∧ r.leaseExpired lease now = false
        · simp [hp, hl.1, hl.2]
        · have hl' : r.inFlight = false ∨ r.leaseExpired lease now = true := by
            cases hi : r.inFlight <;> cases hx : r.leaseExpired lease now <;> simp_all
          rcases hl' with hl' | hl' <;> simp [hp, hl']

theorem claim_of_done {e : ServiceEvent} {node : String} {lease : Nat} {now : Int}
    {ids : UuidSource}
    (h : s.isTombstoned e.key = true ∨ ∃ r, s.find e.key = some r ∧ r.status = .processed) :
    s.claim e node lease now ids = (.alreadyProcessed, s, ids) := by
  unfold claim
  rcases h with ht | ⟨r, hf, hp⟩
  · simp [ht]
  · cases ht : s.isTombstoned e.key <;> simp [hf, hp]

theorem claim_of_held {e : ServiceEvent} {node : String} {lease : Nat} {now : Int}
    {ids : UuidSource} {r : EventRecord} (ht : s.isTombstoned e.key = false)
    (hf : s.find e.key = some r) (hs : r.status = .unprocessed) (hi : r.inFlight = true)
    (hx : r.leaseExpired lease now = false) :
    (s.claim e node lease now ids).1 = .inFlight := by
  simp [claim, ht, hf, hs, hi, hx]

/-- What a claim that succeeds hands out and leaves: the record is held by `node` from `now`
under a fresh token, and either is a new record, filed with a fresh id and indexed, or takes
over the record of the event, which was unprocessed and not held under a live lease. -/
theorem claim_eq_claimed {e : ServiceEvent} {node : String} {lease : Nat} {now : Int}
    {g g' : UuidSource} {r : EventRecord} {s' : EventStore}
    (h : s.claim e node lease now g = (.claimed r, s', g')) :
    s.isTombstoned e.key = false ∧
    ((s.find e.key = none ∧
        r = { recordId := g.next.1, event := e, status := .unprocessed, inFlight := true,
              originNode := node, recordedOn := now, claimedOn := some now,
              claimToken := g.next.2.next.1, sequence := 0 } ∧
        g' = g.next.2.next.2 ∧
        s' = { s with records := s.records ++ [r],
                      keysById := s.keysById.filter (·.1 != r.recordId) ++ [(r.recordId, e.key)] }) ∨
      ∃ r₀, s.find e.key = some r₀ ∧ r₀.status = .unprocessed ∧
        (r₀.inFlight = false ∨ r₀.leaseExpired lease now = true) ∧
        r = { r₀ with inFlight := true, originNode := node, claimedOn := some now,
                      claimToken := g.next.1 } ∧
        g' = g.next.2 ∧ s' = s.put r) := by
  unfold claim at h
  cases ht : s.isTombstoned e.key with
  | true => simp [ht] at h
  | false =>
    simp only [ht, Bool.false_eq_true, if_false] at h
    refine ⟨rfl, ?_⟩
    cases hf : s.find e.key with
    | none =>
      simp only [hf, Prod.mk.injEq, ClaimOutcome.claimed.injEq] at h
      obtain ⟨rfl, rfl, rfl⟩ := h
      exact .inl ⟨rfl, rfl, rfl, rfl⟩
    | some r₀ =>
      simp only [hf] at h
      by_cases hp : r₀.status = .processed
      · simp [hp] at h
      · have hu : r₀.status = .unprocessed := by cases hs : r₀.status <;> simp_all
        by_cases hl : r₀.inFlight = true ∧ r₀.leaseExpired lease now = false
        · simp [hp, hl.1, hl.2] at h
        · have hl' : r₀.inFlight = false ∨ r₀.leaseExpired lease now = true := by
            cases hi : r₀.inFlight <;> cases hx : r₀.leaseExpired lease now <;> simp_all
          have hb : (r₀.inFlight && !r₀.leaseExpired lease now) = false := by
            rcases hl' with hl' | hl' <;> simp [hl']
          have hnp : (r₀.status == .processed) = false := by simp [hu]
          rw [if_neg (by simp [hnp]), if_neg (by simp [hb])] at h
          simp only [Prod.mk.injEq, ClaimOutcome.claimed.injEq] at h
          obtain ⟨rfl, rfl, rfl⟩ := h
          exact .inr ⟨r₀, rfl, hu, hl', rfl, rfl, rfl⟩

/-! ### Marking processed -/

theorem markProcessed_eq_ok {id : Uuid} {r : EventRecord} {s' : EventStore}
    (h : s.markProcessed id = .ok (r, s')) :
    ∃ r₀, s.byId id = some r₀ ∧
      ((r₀.status = .processed ∧ r = r₀ ∧ s' = s) ∨
        (r₀.status = .unprocessed ∧
          r = { r₀ with status := .processed, inFlight := false, claimedOn := none,
                        sequence := s.lastSequence + 1 } ∧
          s' = { s.put r with lastSequence := s.lastSequence + 1 })) := by
  unfold markProcessed at h
  cases hb : s.byId id with
  | none => simp [hb] at h
  | some r₀ =>
    refine ⟨r₀, rfl, ?_⟩
    cases hs : r₀.status with
    | processed =>
      simp only [hb, hs, beq_self_eq_true, if_true, Except.ok.injEq, Prod.mk.injEq] at h
      exact .inl ⟨rfl, h.1.symm, h.2.symm⟩
    | unprocessed =>
      simp only [hb] at h
      rw [if_neg (by simp [hs])] at h
      simp only [Except.ok.injEq, Prod.mk.injEq] at h
      obtain ⟨rfl, rfl⟩ := h
      exact .inr ⟨rfl, rfl, rfl⟩

theorem markProcessed_of_unprocessed {id : Uuid} {r₀ : EventRecord} (h : s.byId id = some r₀)
    (hu : r₀.status = .unprocessed) :
    s.markProcessed id =
      .ok ({ r₀ with status := .processed, inFlight := false, claimedOn := none,
                     sequence := s.lastSequence + 1 },
        { s.put { r₀ with status := .processed, inFlight := false, claimedOn := none,
                          sequence := s.lastSequence + 1 } with
          lastSequence := s.lastSequence + 1 }) := by
  simp [markProcessed, h, hu]

/-! ### Releasing -/

theorem release_eq_ok {id token : Uuid} {s' : EventStore} (h : s.release id token = .ok s') :
    s' = s ∨ ∃ r, s.byId id = some r ∧ r.status = .unprocessed ∧ r.claimToken = token ∧
      s' = s.put { r with inFlight := false, claimedOn := none } := by
  unfold release at h
  cases hb : s.byId id with
  | none => simp [hb] at h
  | some r =>
    simp only [hb] at h
    by_cases hc : r.status = .unprocessed ∧ r.claimToken = token
    · rw [if_pos (by simp [hc.1, hc.2])] at h
      exact .inr ⟨r, rfl, hc.1, hc.2, (Except.ok.inj h).symm⟩
    · have hf : (r.status == .unprocessed && r.claimToken == token) = false := by
        cases h1 : r.status <;> cases h2 : decide (r.claimToken = token) <;> simp_all
      simp only [hf, Bool.false_eq_true, if_false, Except.ok.injEq] at h
      exact .inl h.symm

theorem release_of_holder {id : Uuid} {r : EventRecord} (h : s.byId id = some r)
    (hu : r.status = .unprocessed) :
    s.release id r.claimToken = .ok (s.put { r with inFlight := false, claimedOn := none }) := by
  simp [release, h, hu]

/-! ### Purging and cursors -/

@[simp] theorem purgeProcessed_records (n : Nat) (t : Int) :
    (s.purgeProcessed n t).2.records = s.records.filter fun r => !purgeable n t r := rfl

@[simp] theorem purgeProcessed_keysById (n : Nat) (t : Int) :
    (s.purgeProcessed n t).2.keysById =
      s.keysById.filter fun x => !(s.records.filter (purgeable n t)).any (·.recordId == x.1) :=
  rfl

@[simp] theorem purgeProcessed_tombstones (n : Nat) (t : Int) :
    (s.purgeProcessed n t).2.tombstones =
      s.tombstones ++ (s.records.filter (purgeable n t)).map fun r => (r.key, r.sequence) := rfl

@[simp] theorem purgeProcessed_cursors (n : Nat) (t : Int) :
    (s.purgeProcessed n t).2.cursors = s.cursors := rfl

@[simp] theorem purgeProcessed_lastSequence (n : Nat) (t : Int) :
    (s.purgeProcessed n t).2.lastSequence = s.lastSequence := rfl

theorem loadCursor_saveCursor_of_ne {c c' : String} (n : Nat) (h : c ≠ c') :
    (s.saveCursor c' n).loadCursor c = s.loadCursor c :=
  SortedMap.find_insert_of_ne _ _ h

end EventStore

end DeviceFleet.Events
