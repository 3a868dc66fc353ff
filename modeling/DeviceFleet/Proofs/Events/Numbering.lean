import DeviceFleet.Proofs.Events.StoreLaws

/-!
# The number an event was processed at

The number a mark gives an event stays with it for good, in its record and then its tombstone
(`numberOf`); on a store reached by its own calls an event is numbered exactly when its effect
is known applied (`numberOf_isSome_iff`).
-/

namespace DeviceFleet.Events

namespace EventStore

variable {s : EventStore} {D : List Uuid} {M : List EventKey}

/-! ### The number an event was processed at -/

def numberOf (s : EventStore) (k : EventKey) : Option Nat :=
  match s.find k with
  | some r => seqOf r
  | none => s.tombstones.lookup k

theorem numberOf_of_find {k : EventKey} {r : EventRecord} (h : s.find k = some r) :
    s.numberOf k = seqOf r := by
  simp [numberOf, h]

theorem numberOf_of_find_none {k : EventKey} (h : s.find k = none) :
    s.numberOf k = s.tombstones.lookup k := by
  simp [numberOf, h]

theorem lookup_eq_none_of_tombstoned {k : EventKey} (h : s.isTombstoned k = false) :
    s.tombstones.lookup k = none := by
  simp only [isTombstoned, List.any_eq_false, beq_iff_eq] at h
  cases hl : s.tombstones.lookup k with
  | none => rfl
  | some v =>
    obtain ⟨l₁, l₂, hs, -⟩ := List.lookup_eq_some_iff.mp hl
    exact absurd rfl (h (k, v) (by rw [hs]; simp))

theorem numberOf_isSome_iff (hi : s.Inv D M) {k : EventKey} :
    (s.numberOf k).isSome ↔ s.Done k := by
  unfold Done
  cases hf : s.find k with
  | some r =>
    have ht : s.isTombstoned k = false := by
      rw [← (find_eq_some hf).2]
      exact hi.apart r (find_eq_some hf).1
    rw [numberOf_of_find hf]
    cases hs : r.status <;> simp [seqOf, hs, ht]
  | none =>
    rw [numberOf_of_find_none hf, List.lookup_isSome_iff]
    simp only [isTombstoned, List.any_eq_true, beq_iff_eq]
    constructor
    · rintro ⟨p, hp, rfl⟩
      exact .inl ⟨p, hp, rfl⟩
    · rintro (⟨p, hp, rfl⟩ | ⟨r, h, -⟩)
      · exact ⟨p, hp, rfl⟩
      · cases h

theorem seqOf_eq_some {r : EventRecord} {m : Nat} (h : seqOf r = some m) :
    r.status = .processed ∧ r.sequence = m := by
  unfold seqOf at h
  split at h
  · exact ⟨‹_›, Option.some.inj h⟩
  · cases h

theorem processed_of_numberOf {k : EventKey} {r : EventRecord} {m : Nat} (hf : s.find k = some r)
    (hm : s.numberOf k = some m) : r.status = .processed ∧ r.sequence = m :=
  seqOf_eq_some ((numberOf_of_find hf).symm.trans hm)

theorem Inv.numbers_nodup (hi : s.Inv D M) : (s.records.filterMap seqOf).Nodup :=
  (List.nodup_append.mp hi.assigned_nodup).1

theorem numberOf_put_eq {r : EventRecord} (h : (s.find r.key).isSome) (k : EventKey) :
    (s.put r).numberOf k = if k = r.key then seqOf r else s.numberOf k := by
  split
  · rename_i hk
    subst hk
    exact numberOf_of_find (find_put_self h)
  · rename_i hk
    unfold numberOf
    rw [find_put_of_ne hk, put_tombstones]

theorem numberOf_put {r r₀ : EventRecord} (hf : s.find r.key = some r₀)
    (hu₀ : r₀.status = .unprocessed) (hu : r.status = .unprocessed) (k : EventKey) :
    (s.put r).numberOf k = s.numberOf k := by
  rw [numberOf_put_eq (by simp [hf])]
  split
  · rename_i hk
    rw [hk, numberOf_of_find hf, seqOf_of_unprocessed hu, seqOf_of_unprocessed hu₀]
  · rfl

theorem numberOf_claim (e : ServiceEvent) (node : String) (lease : Nat) (now : Int)
    (g : UuidSource) (k : EventKey) :
    (s.claim e node lease now g).2.1.numberOf k = s.numberOf k := by
  rcases claim_cases s e node lease now g with ⟨-, r, s', g', hc⟩ | ⟨-, o, -, hc⟩
  · rw [hc]
    obtain ⟨ht, ⟨hf, hr, -, rfl⟩ | ⟨r₀, hf, hu, -, hr, -, rfl⟩⟩ := claim_eq_claimed hc
    · have hrk : r.key = e.key := by rw [hr]; rfl
      unfold numberOf find
      rw [List.find?_append]
      simp only [find] at hf
      by_cases hk : k = e.key
      · subst hk
        rw [hf, lookup_eq_none_of_tombstoned ht]
        simp [hr, seqOf, EventRecord.key]
      · cases s.records.find? (·.key == k) with
        | some x => rfl
        | none =>
          have hne : (r.key == k) = false := by simpa [hrk] using Ne.symm hk
          simp [hne]
    · have hrk : r.key = e.key := by rw [hr]; exact (find_eq_some hf).2
      exact numberOf_put (by rw [hrk]; exact hf) hu (by rw [hr]; exact hu) k
  · rw [hc]

theorem numberOf_markProcessed {id : Uuid} {r₀ : EventRecord} (hb : s.byId id = some r₀)
    (hu : r₀.status = .unprocessed) {r : EventRecord} {s' : EventStore}
    (h : s.markProcessed id = .ok (r, s')) (k : EventKey) :
    s'.numberOf k = if k = r₀.key then some (s.lastSequence + 1) else s.numberOf k := by
  rw [markProcessed_of_unprocessed hb hu] at h
  obtain ⟨-, rfl⟩ := Prod.mk.inj (Except.ok.inj h)
  have hf := find_of_byId hb
  let r' : EventRecord :=
    { r₀ with status := .processed, inFlight := false, claimedOn := none,
              sequence := s.lastSequence + 1 }
  have hk : r'.key = r₀.key := rfl
  -- the number is read from the records and the tombstones only
  change (s.put r').numberOf k = _
  rw [numberOf_put_eq (by simp [hk, hf]), hk]
  simp [seqOf, r']

theorem numberOf_release {id token : Uuid} {s' : EventStore} (h : s.release id token = .ok s')
    (k : EventKey) : s'.numberOf k = s.numberOf k := by
  rcases release_eq_ok h with rfl | ⟨r, hb, hu, -, rfl⟩
  · rfl
  · exact numberOf_put (r := { r with inFlight := false, claimedOn := none })
      (find_of_byId hb : s.find r.key = some r) hu hu k

@[simp] theorem numberOf_saveCursor (c : String) (v : Nat) :
    (s.saveCursor c v).numberOf = s.numberOf := rfl

/-! ### Purging -/

theorem lookup_map_key (l : List EventRecord) (k : EventKey) :
    (l.map fun r => (r.key, r.sequence)).lookup k = (l.find? (·.key == k)).map (·.sequence) := by
  induction l with
  | nil => rfl
  | cons x xs ih =>
    by_cases hx : x.key = k
    · simp [hx]
    · have hb : (k == x.key) = false := by simpa using Ne.symm hx
      have hb' : (x.key == k) = false := by simpa using hx
      simp only [List.map_cons, List.lookup_cons, hb, List.find?_cons, hb', ih]

theorem find_purge_of_keep {n : Nat} {t : Int} {k : EventKey} {r : EventRecord}
    (hf : s.find k = some r) (hp : purgeable n t r = false) :
    (s.purgeProcessed n t).2.find k = some r := by
  have hk : r.key = k := (find_eq_some hf).2
  unfold find at hf ⊢
  rw [purgeProcessed_records, List.find?_filter]
  obtain ⟨hr, hpre⟩ := List.find?_eq_some_iff_append.mp hf
  refine List.find?_eq_some_iff_append.mpr ⟨by simp [hp, hk], ?_⟩
  obtain ⟨as, bs, heq, has⟩ := hpre
  refine ⟨as, bs, heq, fun a ha => ?_⟩
  have hak : a.key ≠ k := by simpa using has a ha
  simp [hak]

theorem find_of_find_purge (hi : s.Inv D M) {n : Nat} {t : Int} {k : EventKey} {r : EventRecord}
    (h : (s.purgeProcessed n t).2.find k = some r) : s.find k = some r := by
  obtain ⟨hr, hk⟩ := find_eq_some h
  rw [purgeProcessed_records, List.mem_filter] at hr
  rw [← hk]
  exact find_of_mem hi.keys_nodup hr.1

theorem purgeable_of_find_purge {n : Nat} {t : Int} {k : EventKey}
    {r : EventRecord} (hf : s.find k = some r) (h : (s.purgeProcessed n t).2.find k = none) :
    purgeable n t r = true := by
  by_contra hp
  rw [find_purge_of_keep hf (by simpa using hp)] at h
  cases h

/-- A purge numbers nothing anew and forgets no number: a purged event keeps its number in its
tombstone. -/
theorem numberOf_purge (hi : s.Inv D M) (n : Nat) (t : Int) (k : EventKey) :
    (s.purgeProcessed n t).2.numberOf k = s.numberOf k := by
  cases hf : s.find k with
  | some r =>
    cases hp : purgeable n t r with
    | false => rw [numberOf_of_find (find_purge_of_keep hf hp), numberOf_of_find hf]
    | true =>
      have hk : r.key = k := (find_eq_some hf).2
      have hgone : (s.purgeProcessed n t).2.find k = none := by
        cases hf' : (s.purgeProcessed n t).2.find k with
        | none => rfl
        | some x =>
          rw [find_of_find_purge hi hf', Option.some.injEq] at hf
          subst hf
          obtain ⟨hx, -⟩ := find_eq_some hf'
          simp [hp] at hx
      have hdoomed : (s.records.filter (purgeable n t)).find? (·.key == k) = some r := by
        rw [List.find?_filter]
        unfold find at hf
        obtain ⟨-, as, bs, heq, has⟩ := List.find?_eq_some_iff_append.mp hf
        refine List.find?_eq_some_iff_append.mpr ⟨by simp [hp, hk], as, bs, heq, fun a ha => ?_⟩
        have hak : a.key ≠ k := by simpa using has a ha
        simp [hak]
      have ht : s.isTombstoned k = false := hk ▸ hi.apart r (find_eq_some hf).1
      simp only [purgeable, Bool.and_eq_true, beq_iff_eq] at hp
      rw [numberOf_of_find_none hgone, numberOf_of_find hf, purgeProcessed_tombstones,
        List.lookup_append, lookup_eq_none_of_tombstoned ht, lookup_map_key, hdoomed]
      simp [seqOf, hp.1.1]
  | none =>
    have hnone : (s.records.filter (purgeable n t)).find? (·.key == k) = none := by
      rw [List.find?_filter]
      unfold find at hf
      simp only [List.find?_eq_none] at hf ⊢
      intro x hx
      simp [hf x hx]
    have hgone : (s.purgeProcessed n t).2.find k = none := by
      cases hf' : (s.purgeProcessed n t).2.find k with
      | none => rfl
      | some x => rw [find_of_find_purge hi hf'] at hf; cases hf
    rw [numberOf_of_find_none hgone, numberOf_of_find_none hf, purgeProcessed_tombstones,
      List.lookup_append, lookup_map_key, hnone]
    simp

end EventStore

end DeviceFleet.Events
