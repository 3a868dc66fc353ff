import DeviceFleet.Proofs.Events.Steps

/-!
# The event store's representation invariant

Over every sequence of store calls from an empty store: a processed event stays processed for
every later claim, sequence numbers are distinct, claims and releases respect their holders,
and no saved cursor moves back.
-/

namespace DeviceFleet.Events

/-- One call on an event store. -/
inductive StoreCall where
  | claim (e : ServiceEvent) (node : String) (lease : Nat) (now : Int)
  | markProcessed (id : Uuid)
  | release (id token : Uuid)
  | purge (sequence : Nat) (olderThan : Int)
  | saveCursor (consumer : String) (sequence : Nat)

namespace StoreCall

/-- The store and the source of identifiers after a call; a call that fails leaves both as
they were. -/
def perform : StoreCall → EventStore → UuidSource → EventStore × UuidSource
  | .claim e node lease now, s, g => (s.claim e node lease now g).2
  | .markProcessed id, s, g =>
    match s.markProcessed id with
    | .ok (_, s') => (s', g)
    | .error _ => (s, g)
  | .release id token, s, g =>
    match s.release id token with
    | .ok s' => (s', g)
    | .error _ => (s, g)
  | .purge sequence olderThan, s, g => ((s.purgeProcessed sequence olderThan).2, g)
  | .saveCursor consumer sequence, s, g => (s.saveCursor consumer sequence, g)

/-- The identifiers a call draws: a record id and a token when a claim files a new record, a
token when it takes a record over. -/
def draws : StoreCall → EventStore → UuidSource → List Uuid
  | .claim e node lease now, s, g =>
    match s.claim e node lease now g with
    | (.claimed r, _, _) =>
      if (s.find e.key).isSome then [r.claimToken] else [r.recordId, r.claimToken]
    | _ => []
  | _, _, _ => []

def marks : StoreCall → EventStore → List EventKey
  | .markProcessed id, s =>
    match s.markProcessed id with
    | .ok (r, _) => [r.key]
    | .error _ => []
  | _, _ => []

end StoreCall

namespace EventStore

def seqOf (r : EventRecord) : Option Nat :=
  if r.status = .processed then some r.sequence else none

def assigned (s : EventStore) : List Nat :=
  s.records.filterMap seqOf ++ s.tombstones.map (·.2)

def idKeys (s : EventStore) : List (Uuid × EventKey) :=
  s.records.map fun r => (r.recordId, r.key)

def Done (s : EventStore) (k : EventKey) : Prop :=
  s.isTombstoned k = true ∨ ∃ r, s.find k = some r ∧ r.status = .processed

/-- The invariant of a store reached by drawing the identifiers `D` and marking the records of
the identities `M`. -/
structure Inv (s : EventStore) (D : List Uuid) (M : List EventKey) : Prop where
  keys_nodup : (s.records.map (·.key)).Nodup
  apart : ∀ r ∈ s.records, s.isTombstoned r.key = false
  ids_drawn : (s.records.map (·.recordId)).Sublist D
  index : D.Nodup → ∀ id k, s.keysById.lookup id = some k ↔ (id, k) ∈ s.idKeys
  marked_done : ∀ k ∈ M, s.Done k
  assigned_nodup : s.assigned.Nodup
  assigned_le : ∀ n ∈ s.assigned, n ≤ s.lastSequence

variable {s : EventStore} {D : List Uuid} {M : List EventKey}

theorem seqOf_of_unprocessed {r : EventRecord} (h : r.status = .unprocessed) : seqOf r = none := by
  simp [seqOf, h]

theorem mem_assigned_of_processed {r : EventRecord} (hr : r ∈ s.records)
    (h : r.status = .processed) : r.sequence ∈ s.assigned :=
  List.mem_append_left _ (List.mem_filterMap.mpr ⟨r, hr, by simp [seqOf, h]⟩)

theorem not_done_of_held (hi : Inv s D M) {r : EventRecord} (hf : s.find r.key = some r)
    (hu : r.status = .unprocessed) : ¬ s.Done r.key := by
  rintro (ht | ⟨x, hx, hp⟩)
  · rw [hi.apart r (find_eq_some hf).1] at ht
    cases ht
  · rw [hf] at hx
    cases hx
    rw [hu] at hp
    cases hp

theorem Inv.drawn (hi : Inv s D M) (E : List Uuid) : Inv s (D ++ E) M where
  keys_nodup := hi.keys_nodup
  apart := hi.apart
  ids_drawn := hi.ids_drawn.trans (List.sublist_append_left D E)
  index := fun hn => hi.index (List.nodup_append.mp hn).1
  marked_done := hi.marked_done
  assigned_nodup := hi.assigned_nodup
  assigned_le := hi.assigned_le

theorem Inv.done (hi : Inv s D M) {k : EventKey} (hk : s.Done k) : Inv s D (M ++ [k]) where
  keys_nodup := hi.keys_nodup
  apart := hi.apart
  ids_drawn := hi.ids_drawn
  index := hi.index
  marked_done := by
    intro x hx
    rcases List.mem_append.mp hx with hx | hx
    · exact hi.marked_done x hx
    · rw [List.mem_singleton.mp hx]
      exact hk
  assigned_nodup := hi.assigned_nodup
  assigned_le := hi.assigned_le

/-! ### Putting a record over the record of its identity -/

section Put

variable {r r₀ : EventRecord}

/-- The records put back by a claim taking over, a mark or a release: the same id under the
same identity, in place of an unprocessed record. -/
structure Replaces (s : EventStore) (r r₀ : EventRecord) : Prop where
  found : s.find r.key = some r₀
  key_eq : r.key = r₀.key
  id_eq : r.recordId = r₀.recordId
  held : r₀.status = .unprocessed

theorem Replaces.idKeys (hi : Inv s D M) (h : Replaces s r r₀) : (s.put r).idKeys = s.idKeys := by
  apply map_idKey_put
  intro x hx hk
  have hx' : s.find r.key = some x := by
    rw [← hk]
    exact find_of_mem hi.keys_nodup hx
  rw [h.found] at hx'
  cases hx'
  exact h.id_eq.symm

theorem Replaces.ids (hi : Inv s D M) (h : Replaces s r r₀) :
    (s.put r).records.map (·.recordId) = s.records.map (·.recordId) := by
  have he := congrArg (List.map Prod.fst) (h.idKeys hi)
  simp only [EventStore.idKeys, List.map_map, Function.comp_def] at he
  exact he

theorem Replaces.marked_done (hi : Inv s D M) (h : Replaces s r r₀) :
    ∀ k ∈ M, (s.put r).Done k := by
  intro k hk
  have hne : k ≠ r.key := by
    rintro rfl
    have hf : s.find r₀.key = some r₀ := h.key_eq ▸ h.found
    exact not_done_of_held hi hf h.held (h.key_eq ▸ hi.marked_done _ hk)
  rcases hi.marked_done k hk with ht | ⟨x, hx, hp⟩
  · exact .inl ht
  · exact .inr ⟨x, by rw [find_put_of_ne hne]; exact hx, hp⟩

theorem Replaces.assigned_perm (hi : Inv s D M) (h : Replaces s r r₀)
    (hu : r.status = .unprocessed) : (s.put r).assigned.Perm s.assigned := by
  have hp := filterMap_put_perm seqOf hi.keys_nodup (find_eq_some h.found).1
    (find_eq_some h.found).2
  simp only [seqOf_of_unprocessed h.held, seqOf_of_unprocessed hu, Option.toList_none,
    List.append_nil] at hp
  exact hp.append_right _

/-- A put keeps the invariant's parts about identities, ids and tombstones; the marks and the
numbers handed out are the caller's to show. -/
theorem Replaces.inv_of (hi : Inv s D M) (h : Replaces s r r₀) {L : Nat} {M' : List EventKey}
    (hdone : ∀ k ∈ M', (s.put r).Done k) (hnodup : (s.put r).assigned.Nodup)
    (hle : ∀ n ∈ (s.put r).assigned, n ≤ L) :
    Inv { s.put r with lastSequence := L } D M' where
  keys_nodup := by
    show ((s.put r).records.map (·.key)).Nodup
    rw [map_key_put]
    exact hi.keys_nodup
  apart := by
    intro x hx
    have hm : x.key ∈ s.records.map (·.key) := by
      rw [← map_key_put r]
      exact List.mem_map_of_mem hx
    obtain ⟨y, hy, hyk⟩ := List.mem_map.mp hm
    show s.isTombstoned x.key = false
    rw [← hyk]
    exact hi.apart y hy
  ids_drawn := by
    show ((s.put r).records.map (·.recordId)).Sublist D
    rw [h.ids hi]
    exact hi.ids_drawn
  index := by
    intro hn id k
    show s.keysById.lookup id = some k ↔ (id, k) ∈ (s.put r).idKeys
    rw [h.idKeys hi]
    exact hi.index hn id k
  marked_done := hdone
  assigned_nodup := hnodup
  assigned_le := hle

theorem Replaces.inv (hi : Inv s D M) (h : Replaces s r r₀) (hu : r.status = .unprocessed) :
    Inv (s.put r) D M :=
  h.inv_of hi (h.marked_done hi) ((h.assigned_perm hi hu).nodup_iff.mpr hi.assigned_nodup)
    (fun n hn => hi.assigned_le n ((h.assigned_perm hi hu).mem_iff.mp hn))

/-- Marking an unprocessed record processed numbers it above every number handed out, and
leaves its event known applied. -/
theorem inv_mark (hi : Inv s D M) {id : Uuid} {r₀ : EventRecord} (hb : s.byId id = some r₀)
    (hu : r₀.status = .unprocessed) :
    Inv { s.put { r₀ with status := .processed, inFlight := false, claimedOn := none,
                          sequence := s.lastSequence + 1 } with
          lastSequence := s.lastSequence + 1 } D (M ++ [r₀.key]) := by
  let r : EventRecord := { r₀ with status := .processed, inFlight := false, claimedOn := none,
                                   sequence := s.lastSequence + 1 }
  have hf : s.find r₀.key = some r₀ := find_of_byId hb
  have h : Replaces s r r₀ := ⟨hf, rfl, rfl, hu⟩
  have hp : (s.put r).assigned.Perm ((s.lastSequence + 1) :: s.assigned) := by
    have hq := filterMap_put_perm seqOf hi.keys_nodup (find_eq_some hf).1 rfl (r := r)
    simp only [seqOf_of_unprocessed hu, Option.toList_none, List.append_nil] at hq
    have hr : seqOf r = some (s.lastSequence + 1) := rfl
    rw [hr, Option.toList_some] at hq
    unfold assigned
    rw [put_tombstones]
    refine (hq.append_right _).trans ?_
    rw [List.append_assoc, List.singleton_append]
    exact List.perm_middle
  refine h.inv_of hi ?_ ?_ ?_
  · intro k hk
    rcases List.mem_append.mp hk with hk | hk
    · exact h.marked_done hi k hk
    · rw [List.mem_singleton.mp hk]
      exact .inr ⟨r, find_put_self (by rw [h.found]; rfl), rfl⟩
  · rw [hp.nodup_iff, List.nodup_cons]
    refine ⟨fun hm => ?_, hi.assigned_nodup⟩
    have := hi.assigned_le _ hm
    omega
  · intro n hn
    rcases List.mem_cons.mp (hp.mem_iff.mp hn) with rfl | hn
    · exact Nat.le_refl _
    · exact Nat.le_succ_of_le (hi.assigned_le n hn)

end Put

/-! ### Filing a new record -/

theorem filterMap_seqOf_file {l : List EventRecord} {r : EventRecord}
    (hu : r.status = .unprocessed) : (l ++ [r]).filterMap seqOf = l.filterMap seqOf := by
  simp [List.filterMap_append, seqOf_of_unprocessed hu]

/-- Filing a new unprocessed record under an identity with neither a record nor a tombstone,
with an id never drawn before, keeps the invariant. -/
theorem inv_file (hi : Inv s D M) {e : ServiceEvent} {r : EventRecord} {token : Uuid}
    (ht : s.isTombstoned e.key = false) (hf : s.find e.key = none) (hk : r.key = e.key)
    (hu : r.status = .unprocessed) :
    Inv { s with records := s.records ++ [r],
                 keysById := s.keysById.filter (·.1 != r.recordId) ++ [(r.recordId, e.key)] }
      (D ++ [r.recordId, token]) M where
  keys_nodup := by
    show ((s.records ++ [r]).map (·.key)).Nodup
    rw [List.map_append, List.nodup_append]
    refine ⟨hi.keys_nodup, List.nodup_singleton _, ?_⟩
    intro a ha b hb
    obtain ⟨x, hx, rfl⟩ := List.mem_map.mp ha
    rw [List.map_singleton, List.mem_singleton] at hb
    rw [hb, hk]
    exact find_eq_none.mp hf x hx
  apart := by
    intro x hx
    show s.isTombstoned x.key = false
    rcases List.mem_append.mp hx with hx | hx
    · exact hi.apart x hx
    · rw [List.mem_singleton.mp hx, hk]
      exact ht
  ids_drawn := by
    show ((s.records ++ [r]).map (·.recordId)).Sublist (D ++ [r.recordId, token])
    rw [List.map_append, List.map_singleton]
    exact hi.ids_drawn.append (List.cons_sublist_cons.mpr (List.nil_sublist _))
  index := by
    intro hn id k
    have hD : D.Nodup := (List.nodup_append.mp hn).1
    -- the new id was never drawn, so no record held before has it
    have hfresh : ∀ k', (r.recordId, k') ∉ s.idKeys := by
      intro k' hm
      obtain ⟨x, hx, hxe⟩ := List.mem_map.mp hm
      simp only [Prod.mk.injEq] at hxe
      have hmD : r.recordId ∈ D := hi.ids_drawn.subset (List.mem_map.mpr ⟨x, hx, hxe.1⟩)
      exact (List.nodup_append.mp hn).2.2 _ hmD _ (List.mem_cons_self ..) rfl
    show (s.keysById.filter (·.1 != r.recordId) ++ [(r.recordId, e.key)]).lookup id = some k ↔
      (id, k) ∈ (s.records ++ [r]).map fun x => (x.recordId, x.key)
    rw [List.lookup_append, lookup_filter_id (· != r.recordId), List.map_append,
      List.mem_append]
    by_cases hid : id = r.recordId
    · subst hid
      have hnot := hfresh k
      simp only [idKeys] at hnot
      simp [hnot, hk, eq_comm]
    · have hb : (id != r.recordId) = true := by simpa using hid
      have hne : (id == r.recordId) = false := by simpa using hid
      simp only [hb, if_true, List.lookup_cons, hne, List.lookup_nil, Option.or_none,
        List.map_cons, List.map_nil, List.mem_singleton, Prod.mk.injEq, hid, false_and,
        or_false]
      exact hi.index hD id k
  marked_done := by
    intro k hk
    rcases hi.marked_done k hk with ht' | ⟨x, hx, hp⟩
    · exact .inl ht'
    · refine .inr ⟨x, ?_, hp⟩
      show (s.records ++ [r]).find? (·.key == k) = some x
      rw [List.find?_append]
      simp only [find] at hx
      rw [hx]
      rfl
  assigned_nodup := by
    show ((s.records ++ [r]).filterMap seqOf ++ s.tombstones.map (·.2)).Nodup
    rw [filterMap_seqOf_file hu]
    exact hi.assigned_nodup
  assigned_le := by
    intro n hn
    change n ∈ (s.records ++ [r]).filterMap seqOf ++ s.tombstones.map (·.2) at hn
    rw [filterMap_seqOf_file hu] at hn
    exact hi.assigned_le n hn

/-! ### Purging -/

theorem assigned_purge_perm (n : Nat) (t : Int) :
    (s.purgeProcessed n t).2.assigned.Perm s.assigned := by
  have hp : ((s.records.filter (purgeable n t)).filterMap seqOf) =
      (s.records.filter (purgeable n t)).map (·.sequence) := by
    rw [← List.filterMap_eq_map]
    apply List.filterMap_congr
    intro x hx
    have hpr : x.status = .processed := by
      have := (List.mem_filter.mp hx).2
      simp only [purgeable, Bool.and_eq_true, beq_iff_eq] at this
      exact this.1.1
    simp [seqOf, hpr]
  have hsplit : ((s.records.filter fun r => !purgeable n t r).filterMap seqOf ++
      (s.records.filter (purgeable n t)).filterMap seqOf).Perm (s.records.filterMap seqOf) := by
    rw [← List.filterMap_append]
    exact (List.perm_append_comm.trans (List.filter_append_perm _ _)).filterMap _
  unfold assigned
  rw [purgeProcessed_records, purgeProcessed_tombstones, List.map_append, List.map_map]
  simp only [Function.comp_def]
  rw [← hp]
  refine (List.Perm.append_left _ List.perm_append_comm).trans ?_
  rw [← List.append_assoc]
  exact hsplit.append_right _

/-- The index a purge keeps: under distinct ids, the ids of the records kept, and so no id of
a purged record. -/
theorem mem_idKeys_purge (hids : (s.records.map (·.recordId)).Nodup) {n : Nat} {t : Int}
    {id : Uuid} {k : EventKey} :
    (id, k) ∈ (s.purgeProcessed n t).2.idKeys ↔
      (id, k) ∈ s.idKeys ∧ (s.records.filter (purgeable n t)).any (·.recordId == id) = false := by
  show (id, k) ∈ (s.records.filter fun r => !purgeable n t r).map (fun x => (x.recordId, x.key)) ↔ _
  constructor
  · intro hm
    obtain ⟨x, hx, hxe⟩ := List.mem_map.mp hm
    simp only [Prod.mk.injEq] at hxe
    rw [List.mem_filter] at hx
    refine ⟨List.mem_map.mpr ⟨x, hx.1, by rw [hxe.1, hxe.2]⟩, List.any_eq_false.mpr ?_⟩
    -- a purged record with the same id is the kept record itself
    intro y hy hyid
    rw [List.mem_filter] at hy
    have hyid' : y.recordId = id := by simpa using hyid
    have hxy : x = y := List.inj_on_of_nodup_map hids hx.1 hy.1 (hxe.1.trans hyid'.symm)
    rw [hxy] at hx
    simp [hy.2] at hx
  · rintro ⟨hm, hd⟩
    obtain ⟨x, hx, hxe⟩ := List.mem_map.mp hm
    simp only [Prod.mk.injEq] at hxe
    refine List.mem_map.mpr ⟨x, List.mem_filter.mpr ⟨hx, ?_⟩, by rw [hxe.1, hxe.2]⟩
    cases hpx : purgeable n t x with
    | false => rfl
    | true =>
      have : (s.records.filter (purgeable n t)).any (·.recordId == id) = true :=
        List.any_eq_true.mpr ⟨x, List.mem_filter.mpr ⟨hx, hpx⟩, by simp [hxe.1]⟩
      rw [hd] at this
      cases this

/-- Purging keeps the invariant: each purged record leaves a tombstone and its id leaves the
index. -/
theorem inv_purge (hi : Inv s D M) (n : Nat) (t : Int) : Inv (s.purgeProcessed n t).2 D M where
  keys_nodup := by
    rw [purgeProcessed_records]
    exact hi.keys_nodup.sublist (List.filter_sublist.map _)
  apart := by
    intro x hx
    rw [purgeProcessed_records, List.mem_filter] at hx
    simp only [isTombstoned, purgeProcessed_tombstones, List.any_append, Bool.or_eq_false_iff]
    refine ⟨hi.apart x hx.1, ?_⟩
    rw [List.any_eq_false]
    intro p hp hpk
    obtain ⟨y, hy, rfl⟩ := List.mem_map.mp hp
    rw [List.mem_filter] at hy
    have hyx : y = x := List.inj_on_of_nodup_map hi.keys_nodup hy.1 hx.1 (by simpa using hpk)
    rw [hyx] at hy
    simp [hy.2] at hx
  ids_drawn := by
    rw [purgeProcessed_records]
    exact (List.filter_sublist.map _).trans hi.ids_drawn
  index := by
    intro hD id k
    rw [mem_idKeys_purge (hi.ids_drawn.nodup hD), ← hi.index hD id k]
    show (s.purgeProcessed n t).2.keysById.lookup id = some k ↔ _
    rw [purgeProcessed_keysById,
      lookup_filter_id (fun u => !(s.records.filter (purgeable n t)).any (·.recordId == u))]
    by_cases hd : ((s.records.filter (purgeable n t)).any (·.recordId == id)) = true
    · simp [hd]
    · simp only [Bool.not_eq_true] at hd
      simp [hd]
  marked_done := by
    intro k hk
    rcases hi.marked_done k hk with ht | ⟨x, hx, hp⟩
    · left
      simp only [isTombstoned, purgeProcessed_tombstones, List.any_append, Bool.or_eq_true]
      exact .inl ht
    · obtain ⟨hxm, rfl⟩ := find_eq_some hx
      cases hpx : purgeable n t x with
      | true =>
        left
        simp only [isTombstoned, purgeProcessed_tombstones, List.any_append, Bool.or_eq_true]
        exact .inr (List.any_eq_true.mpr ⟨(x.key, x.sequence),
          List.mem_map.mpr ⟨x, List.mem_filter.mpr ⟨hxm, hpx⟩, rfl⟩, by simp⟩)
      | false =>
        right
        refine ⟨x, ?_, hp⟩
        apply find_of_mem
        · rw [purgeProcessed_records]
          exact hi.keys_nodup.sublist (List.filter_sublist.map _)
        · rw [purgeProcessed_records]
          exact List.mem_filter.mpr ⟨hxm, by simp [hpx]⟩
  assigned_nodup := (assigned_purge_perm n t).nodup_iff.mpr hi.assigned_nodup
  assigned_le := fun m hm => hi.assigned_le m ((assigned_purge_perm n t).mem_iff.mp hm)

/-! ### Every call keeps the invariant -/

theorem inv_init : Inv {} [] [] where
  keys_nodup := List.nodup_nil
  apart := by simp
  ids_drawn := List.Sublist.slnil
  index := by simp [idKeys]
  marked_done := by simp
  assigned_nodup := by simp [assigned]
  assigned_le := by simp [assigned]

theorem inv_step (hi : Inv s D M) (g : UuidSource) (a : StoreCall) :
    Inv (a.perform s g).1 (D ++ a.draws s g) (M ++ a.marks s) := by
  cases a with
  | claim e node lease now =>
    rcases claim_cases s e node lease now g with ⟨-, r, s', g', hc⟩ | ⟨-, o, ho, hc⟩
    · obtain ⟨ht, ⟨hf, rfl, rfl, rfl⟩ | ⟨r₀, hf, hu, -, rfl, rfl, rfl⟩⟩ := claim_eq_claimed hc
      · simp only [StoreCall.perform, StoreCall.draws, StoreCall.marks, hc, hf, Option.isSome_none,
          Bool.false_eq_true, if_false, List.append_nil]
        exact inv_file hi ht hf rfl rfl
      · simp only [StoreCall.perform, StoreCall.draws, StoreCall.marks, hc, hf, Option.isSome_some,
          if_true, List.append_nil]
        have hf' : s.find r₀.key = some r₀ := by rw [(find_eq_some hf).2]; exact hf
        let r : EventRecord :=
          { r₀ with inFlight := true, originNode := node, claimedOn := some now,
                    claimToken := g.next.1 }
        have h : Replaces s r r₀ := ⟨hf', rfl, rfl, hu⟩
        exact (h.inv hi hu).drawn _
    · have hd : (StoreCall.claim e node lease now).draws s g = [] := by
        rcases ho with rfl | rfl <;> simp [StoreCall.draws, hc]
      rw [hd]
      simp only [StoreCall.perform, StoreCall.marks, hc, List.append_nil]
      exact hi
  | markProcessed id =>
    cases hm : s.markProcessed id with
    | error err =>
      simp only [StoreCall.perform, StoreCall.draws, StoreCall.marks, hm, List.append_nil]
      exact hi
    | ok p =>
      obtain ⟨r, s'⟩ := p
      obtain ⟨r₀, hb, ⟨hp, rfl, rfl⟩ | ⟨hu, rfl, rfl⟩⟩ := markProcessed_eq_ok hm
      · simp only [StoreCall.perform, StoreCall.draws, StoreCall.marks, hm, List.append_nil]
        exact hi.done (.inr ⟨_, find_of_byId hb, hp⟩)
      · simp only [StoreCall.perform, StoreCall.draws, StoreCall.marks, hm, List.append_nil]
        exact inv_mark hi hb hu
  | release id token =>
    cases hr : s.release id token with
    | error err =>
      simp only [StoreCall.perform, StoreCall.draws, StoreCall.marks, hr, List.append_nil]
      exact hi
    | ok s' =>
      simp only [StoreCall.perform, StoreCall.draws, StoreCall.marks, hr, List.append_nil]
      rcases release_eq_ok hr with rfl | ⟨r, hb, hu, -, rfl⟩
      · exact hi
      · exact Replaces.inv hi ⟨(find_of_byId hb : s.find r.key = some r), rfl, rfl, hu⟩ hu
  | purge n t =>
    simp only [StoreCall.perform, StoreCall.draws, StoreCall.marks, List.append_nil]
    exact inv_purge hi n t
  | saveCursor c n =>
    simp only [StoreCall.perform, StoreCall.draws, StoreCall.marks, List.append_nil]
    exact ⟨hi.1, hi.2, hi.3, hi.4, hi.5, hi.6, hi.7⟩

/-! ### What each call promises of a reached store -/

theorem claim_cursors (e : ServiceEvent) (node : String) (lease : Nat) (now : Int)
    (g : UuidSource) : (s.claim e node lease now g).2.1.cursors = s.cursors := by
  rcases claim_cases s e node lease now g with ⟨-, r, s', g', hc⟩ | ⟨-, o, -, hc⟩
  · rw [hc]
    obtain ⟨-, ⟨-, -, -, rfl⟩ | ⟨-, -, -, -, -, -, rfl⟩⟩ := claim_eq_claimed hc <;> rfl
  · rw [hc]

theorem loadCursor_perform (a : StoreCall) (g : UuidSource) (c : String) {n : Nat}
    (h : s.loadCursor c = some n) : ∃ n', (a.perform s g).1.loadCursor c = some n' ∧ n ≤ n' := by
  cases a with
  | saveCursor c' m =>
    by_cases hc : c = c'
    · subst hc
      refine ⟨_, saveCursor_load s c m, ?_⟩
      rw [h]
      exact Nat.le_max_left n m
    · exact ⟨n, by rw [StoreCall.perform, loadCursor_saveCursor_of_ne m hc, h], Nat.le_refl n⟩
  | claim e node lease now =>
    refine ⟨n, ?_, Nat.le_refl n⟩
    simp only [StoreCall.perform, loadCursor, claim_cursors]
    exact h
  | markProcessed id =>
    refine ⟨n, ?_, Nat.le_refl n⟩
    cases hm : s.markProcessed id with
    | error => simp only [StoreCall.perform, hm]; exact h
    | ok p =>
      obtain ⟨r, s'⟩ := p
      simp only [StoreCall.perform, hm]
      obtain ⟨r₀, -, ⟨-, -, rfl⟩ | ⟨-, -, rfl⟩⟩ := markProcessed_eq_ok hm <;> exact h
  | release id token =>
    refine ⟨n, ?_, Nat.le_refl n⟩
    cases hr : s.release id token with
    | error => simp only [StoreCall.perform, hr]; exact h
    | ok s' =>
      simp only [StoreCall.perform, hr]
      rcases release_eq_ok hr with rfl | ⟨r, -, -, -, rfl⟩ <;> exact h
  | purge m t => exact ⟨n, h, Nat.le_refl n⟩

theorem Inv.mark_numbers (hi : Inv s D M) {id : Uuid} {r : EventRecord} {s' : EventStore}
    (h : s.markProcessed id = .ok (r, s')) :
    (r.sequence = s.lastSequence + 1 ∧ s'.lastSequence = r.sequence ∧
        ∀ n ∈ s.assigned, n < r.sequence) ∨
      (s' = s ∧ r.sequence ∈ s.assigned) := by
  obtain ⟨r₀, hb, ⟨hp, rfl, rfl⟩ | ⟨-, rfl, rfl⟩⟩ := markProcessed_eq_ok h
  · exact .inr ⟨rfl, mem_assigned_of_processed (find_eq_some (find_of_byId hb)).1 hp⟩
  · exact .inl ⟨rfl, rfl, fun n hn => Nat.lt_succ_of_le (hi.assigned_le n hn)⟩

theorem claim_claimed_when {e : ServiceEvent} {node : String} {lease : Nat} {now : Int}
    {g g' : UuidSource} {r : EventRecord} {s' : EventStore}
    (h : s.claim e node lease now g = (.claimed r, s', g')) :
    s.isTombstoned e.key = false ∧
      (s.find e.key = none ∨ ∃ r₀, s.find e.key = some r₀ ∧ r₀.status = .unprocessed ∧
        (r₀.inFlight = false ∨ r₀.leaseExpired lease now = true)) := by
  obtain ⟨ht, ⟨hf, -⟩ | ⟨r₀, hf, hu, hl, -⟩⟩ := claim_eq_claimed h
  · exact ⟨ht, .inl hf⟩
  · exact ⟨ht, .inr ⟨r₀, hf, hu, hl⟩⟩

theorem claim_token_fresh {e : ServiceEvent} {node : String} {lease : Nat} {now : Int}
    {g g' : UuidSource} {r : EventRecord} {s' : EventStore}
    (h : s.claim e node lease now g = (.claimed r, s', g'))
    (hn : (D ++ (StoreCall.claim e node lease now).draws s g).Nodup) : r.claimToken ∉ D := by
  have hm : r.claimToken ∈ (StoreCall.claim e node lease now).draws s g := by
    simp only [StoreCall.draws, h]
    split <;> simp
  exact fun hD => (List.nodup_append.mp hn).2.2 _ hD _ hm rfl

end EventStore

/-- Where a run of calls on an event store stands: the store, the source the next identifiers
come from, the identifiers drawn so far and the identities of the records marked so far, in
order. -/
structure StoreRun where
  store : EventStore
  ids : UuidSource
  drawn : List Uuid
  marked : List EventKey

namespace StoreRun

def call (x : StoreRun) (a : StoreCall) : StoreRun where
  store := (a.perform x.store x.ids).1
  ids := (a.perform x.store x.ids).2
  drawn := x.drawn ++ a.draws x.store x.ids
  marked := x.marked ++ a.marks x.store

def ofCalls (g : UuidSource) (calls : List StoreCall) : StoreRun :=
  calls.foldl call ⟨{}, g, [], []⟩

theorem inv_foldl (calls : List StoreCall) (x : StoreRun)
    (hx : x.store.Inv x.drawn x.marked) :
    (calls.foldl call x).store.Inv (calls.foldl call x).drawn (calls.foldl call x).marked := by
  induction calls generalizing x with
  | nil => exact hx
  | cons a calls ih => exact ih (x.call a) (EventStore.inv_step hx x.ids a)

theorem inv_ofCalls (g : UuidSource) (calls : List StoreCall) :
    (ofCalls g calls).store.Inv (ofCalls g calls).drawn (ofCalls g calls).marked :=
  inv_foldl calls _ EventStore.inv_init

/-- What an event store promises after a run of calls; `ids` is the source the next call
draws from.

* `claim_after_mark`: a marked event is answered as already processed by every later claim;
* `assigned_nodup`, `assigned_le`, `mark_numbers`: processed records and tombstones carry
  pairwise distinct numbers, none above the last handed out, and a mark numbers a record
  above all of them or answers one already processed as it is;
* `claimed_when`, `claimed_fresh`: a claim succeeds only for an event with no record, or an
  unprocessed record not held under a live lease, with a token drawn fresh;
* `release_holder`: a release changes the store only for the holder of the current token of
  an unprocessed record;
* `apart`, `index`: no identity has both a record and a tombstone, and the index names
  exactly the records held;
* `cursor_grows`: no call moves a saved cursor back. -/
structure Laws (x : StoreRun) : Prop where
  claim_after_mark : ∀ k ∈ x.marked, ∀ (e : ServiceEvent) node lease now (g : UuidSource),
    e.key = k → (x.store.claim e node lease now g).1 = .alreadyProcessed
  assigned_nodup : x.store.assigned.Nodup
  assigned_le : ∀ n ∈ x.store.assigned, n ≤ x.store.lastSequence
  mark_numbers : ∀ id r s', x.store.markProcessed id = .ok (r, s') →
    (r.sequence = x.store.lastSequence + 1 ∧ s'.lastSequence = r.sequence ∧
        ∀ n ∈ x.store.assigned, n < r.sequence) ∨
      (s' = x.store ∧ r.sequence ∈ x.store.assigned)
  claimed_when : ∀ (e : ServiceEvent) node lease now (g g' : UuidSource) r s',
    x.store.claim e node lease now g = (.claimed r, s', g') →
      x.store.isTombstoned e.key = false ∧
        (x.store.find e.key = none ∨ ∃ r₀, x.store.find e.key = some r₀ ∧
          r₀.status = .unprocessed ∧ (r₀.inFlight = false ∨ r₀.leaseExpired lease now = true))
  claimed_fresh : ∀ (e : ServiceEvent) node lease now r s' g',
    x.store.claim e node lease now x.ids = (.claimed r, s', g') →
      (x.drawn ++ (StoreCall.claim e node lease now).draws x.store x.ids).Nodup →
        r.claimToken ∉ x.drawn
  release_holder : ∀ id token s', x.store.release id token = .ok s' → s' = x.store ∨
    ∃ r, x.store.byId id = some r ∧ r.status = .unprocessed ∧ r.claimToken = token ∧
      s' = x.store.put { r with inFlight := false, claimedOn := none }
  apart : ∀ r ∈ x.store.records, x.store.isTombstoned r.key = false
  index : x.drawn.Nodup →
    ∀ id k, x.store.keysById.lookup id = some k ↔ (id, k) ∈ x.store.idKeys
  cursor_grows : ∀ (a : StoreCall) c n, x.store.loadCursor c = some n →
    ∃ n', (a.perform x.store x.ids).1.loadCursor c = some n' ∧ n ≤ n'

/-- The event store's representation invariant holds after every sequence of calls on an
empty store, whatever the events, nodes, leases, tokens and clock readings. -/
theorem laws_ofCalls (g : UuidSource) (calls : List StoreCall) : (ofCalls g calls).Laws := by
  have hi := inv_ofCalls g calls
  refine ⟨?_, hi.assigned_nodup, hi.assigned_le, fun _ _ _ h => hi.mark_numbers h,
    fun _ _ _ _ _ _ _ _ h => EventStore.claim_claimed_when h,
    fun _ _ _ _ _ _ _ h hn => EventStore.claim_token_fresh h hn,
    fun _ _ _ h => EventStore.release_eq_ok h, hi.apart, hi.index,
    fun a _ _ h => EventStore.loadCursor_perform a _ _ h⟩
  intro k hk e node lease now g' he
  rw [EventStore.claim_of_done (he ▸ hi.marked_done k hk)]

end StoreRun

end DeviceFleet.Events
