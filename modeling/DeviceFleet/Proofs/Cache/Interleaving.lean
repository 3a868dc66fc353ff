import DeviceFleet.Cache.Lookup
import Mathlib.Logic.Function.Basic

/-!
# Loads racing with invalidations

The parts of `get_or_load` and of invalidations run as moves of callers sharing one cache, in
any order (`World.move`); what holds of every order is `loads_race_invalidations`, and a lookup
may find a stale value between an insert and its re-check.
-/

namespace DeviceFleet.Cache

namespace Lookup

variable {κ α : Type} [DecidableEq κ]

/-! ## The parts of an insert and of an invalidation -/

/-- Room for a key about to be inserted: in a full cache without it, the entry used least
recently goes. -/
def makeRoom (c : Lookup κ α) (k : κ) : Lookup κ α :=
  if c.maxSize > 0 && c.size ≥ c.maxSize && (c.entries.lookup k).isNone then
    match c.leastRecent? with
    | some old => { c with entries := c.entries.filter (·.1 != old) }
    | none => c
  else c

def put (c : Lookup κ α) (k : κ) (v : α) : Lookup κ α :=
  let stamp := c.ticks
  let e : Entry α := ⟨v, stamp, stamp⟩
  let entries := if (c.entries.lookup k).isSome then
      c.entries.map fun (kv : κ × Entry α) => if kv.1 = k then (kv.1, e) else kv
    else c.entries ++ [(k, e)]
  { c with ticks := stamp + 1, entries }

def dropStamped (c : Lookup κ α) (k : κ) (stamp : Nat) : Lookup κ α :=
  { c with entries := c.entries.filter fun kv => !decide (kv.1 = k ∧ kv.2.stamp = stamp) }

def bump (c : Lookup κ α) : Lookup κ α :=
  { c with invalidations := c.invalidations + 1 }

def removeKey (c : Lookup κ α) (k : κ) : Lookup κ α :=
  { c with entries := c.entries.filter (·.1 != k) }

def olderOf (best : Option (κ × Nat)) (kv : κ × Entry α) : Option (κ × Nat) :=
  match best with
  | some (_, t) => if kv.2.lastAccessed < t then some (kv.1, kv.2.lastAccessed) else best
  | none => some (kv.1, kv.2.lastAccessed)

omit [DecidableEq κ] in
theorem leastRecent?_eq (c : Lookup κ α) :
    c.leastRecent? = (c.entries.foldl olderOf none).map Prod.fst := rfl

theorem insertUnlessInvalidated_eq (c : Lookup κ α) (k : κ) (v : α) (epoch : Nat) :
    c.insertUnlessInvalidated k v epoch =
      if c.invalidations = epoch then (c.makeRoom k).put k v else c := by
  by_cases h : c.invalidations = epoch
  · subst h
    simp only [insertUnlessInvalidated, ne_eq, not_true_eq_false, ↓reduceIte]
    rfl
  · simp [insertUnlessInvalidated, h]

theorem invalidate_snd (c : Lookup κ α) (k : κ) : (c.invalidate k).2 = c.bump.removeKey k :=
  rfl

/-! ### What each part leaves alone -/

section Fields

variable (c : Lookup κ α) (k : κ)

theorem makeRoom_eq_entries : c.makeRoom k = { c with entries := (c.makeRoom k).entries } := by
  unfold makeRoom
  split
  · split <;> rfl
  · rfl

@[simp] theorem makeRoom_invalidations : (c.makeRoom k).invalidations = c.invalidations := by
  rw [makeRoom_eq_entries]

@[simp] theorem makeRoom_ticks : (c.makeRoom k).ticks = c.ticks := by
  rw [makeRoom_eq_entries]

@[simp] theorem makeRoom_maxSize : (c.makeRoom k).maxSize = c.maxSize := by
  rw [makeRoom_eq_entries]

@[simp] theorem put_invalidations (v : α) : (c.put k v).invalidations = c.invalidations := rfl

@[simp] theorem put_ticks (v : α) : (c.put k v).ticks = c.ticks + 1 := rfl

@[simp] theorem put_maxSize (v : α) : (c.put k v).maxSize = c.maxSize := rfl

@[simp] theorem dropStamped_invalidations (s : Nat) :
    (c.dropStamped k s).invalidations = c.invalidations := rfl

@[simp] theorem dropStamped_ticks (s : Nat) : (c.dropStamped k s).ticks = c.ticks := rfl

@[simp] theorem dropStamped_maxSize (s : Nat) : (c.dropStamped k s).maxSize = c.maxSize := rfl

omit [DecidableEq κ] in
@[simp] theorem bump_invalidations : c.bump.invalidations = c.invalidations + 1 := rfl

omit [DecidableEq κ] in
@[simp] theorem bump_entries : c.bump.entries = c.entries := rfl

omit [DecidableEq κ] in
@[simp] theorem bump_ticks : c.bump.ticks = c.ticks := rfl

omit [DecidableEq κ] in
@[simp] theorem bump_maxSize : c.bump.maxSize = c.maxSize := rfl

omit [DecidableEq κ] in
@[simp] theorem bump_size : c.bump.size = c.size := rfl

@[simp] theorem removeKey_invalidations : (c.removeKey k).invalidations = c.invalidations := rfl

@[simp] theorem removeKey_ticks : (c.removeKey k).ticks = c.ticks := rfl

@[simp] theorem removeKey_maxSize : (c.removeKey k).maxSize = c.maxSize := rfl

@[simp] theorem get_invalidations : (c.get k).2.invalidations = c.invalidations := by
  unfold get
  split <;> rfl

@[simp] theorem get_maxSize : (c.get k).2.maxSize = c.maxSize := by
  unfold get
  split <;> rfl

theorem ticks_le_get : c.ticks ≤ (c.get k).2.ticks := by
  unfold get
  split
  · exact Nat.le_refl _
  · exact Nat.le_succ _

@[simp] theorem size_get : (c.get k).2.size = c.size := by
  unfold get size
  split
  · rfl
  · simp

theorem get_fst : (c.get k).1 = (c.entries.lookup k).map (·.value) := by
  unfold get
  split
  · rename_i h
    rw [h]
    rfl
  · rename_i e h
    rw [h]
    rfl

end Fields

/-! ### The entries each part leaves -/

variable {c : Lookup κ α} {k : κ} {kv : κ × Entry α}

theorem mem_makeRoom (h : kv ∈ (c.makeRoom k).entries) : kv ∈ c.entries := by
  unfold makeRoom at h
  split at h
  · split at h
    · exact (List.mem_filter.mp h).1
    · exact h
  · exact h

theorem mem_put {v : α} (h : kv ∈ (c.put k v).entries) :
    kv = (k, ⟨v, c.ticks, c.ticks⟩) ∨ kv ∈ c.entries := by
  simp only [put] at h
  split at h
  · obtain ⟨kv₀, hkv₀, rfl⟩ := List.mem_map.mp h
    by_cases hk : kv₀.1 = k
    · exact .inl (by simp [hk])
    · exact .inr (by simpa [hk] using hkv₀)
  · rcases List.mem_append.mp h with h | h
    · exact .inr h
    · exact .inl (List.mem_singleton.mp h)

theorem mem_dropStamped {s : Nat} :
    kv ∈ (c.dropStamped k s).entries ↔ kv ∈ c.entries ∧ ¬ (kv.1 = k ∧ kv.2.stamp = s) := by
  simp only [dropStamped, List.mem_filter, Bool.not_eq_eq_eq_not, Bool.not_true,
    decide_eq_false_iff_not]

theorem mem_removeKey : kv ∈ (c.removeKey k).entries ↔ kv ∈ c.entries ∧ kv.1 ≠ k := by
  simp [removeKey]

theorem mem_get (h : kv ∈ (c.get k).2.entries) :
    ∃ x, (kv.1, x) ∈ c.entries ∧ x.value = kv.2.value ∧ x.stamp = kv.2.stamp := by
  unfold get at h
  split at h
  · exact ⟨kv.2, h, rfl, rfl⟩
  · obtain ⟨kv₀, hkv₀, rfl⟩ := List.mem_map.mp h
    by_cases hk : kv₀.1 = k
    · rw [if_pos hk]
      exact ⟨kv₀.2, hkv₀, rfl, rfl⟩
    · rw [if_neg hk]
      exact ⟨kv₀.2, hkv₀, rfl, rfl⟩

theorem get_fst_eq_some {v : α} (h : (c.get k).1 = some v) :
    ∃ x, (k, x) ∈ c.entries ∧ x.value = v := by
  rw [get_fst] at h
  obtain ⟨x, hx, rfl⟩ := Option.map_eq_some_iff.mp h
  obtain ⟨l₁, l₂, hl, -⟩ := List.lookup_eq_some_iff.mp hx
  exact ⟨x, by simp [hl], rfl⟩

/-! ### Size and eviction -/

theorem size_put (v : α) :
    (c.put k v).size = if (c.entries.lookup k).isSome then c.size else c.size + 1 := by
  unfold put size
  split <;> simp_all

omit [DecidableEq κ] in
/-- The scan for the key used least recently, begun at a key `b` last used at `t`, ends at
`b` or at a key of the list, at a use no later than `t` or any use it passed. -/
theorem foldl_olderOf (l : List (κ × Entry α)) (b : κ) (t : Nat) :
    ∃ b' t', l.foldl olderOf (some (b, t)) = some (b', t') ∧
      ((b', t') = (b, t) ∨ ∃ e, (b', e) ∈ l ∧ e.lastAccessed = t') ∧
      t' ≤ t ∧ ∀ kv ∈ l, t' ≤ kv.2.lastAccessed := by
  induction l generalizing b t with
  | nil => exact ⟨b, t, rfl, .inl rfl, Nat.le_refl t, by simp⟩
  | cons kv rest ih =>
    by_cases hlt : kv.2.lastAccessed < t
    · obtain ⟨b', t', hf, hsrc, hle, hall⟩ := ih kv.1 kv.2.lastAccessed
      refine ⟨b', t', by simpa [olderOf, hlt] using hf, ?_, by omega, ?_⟩
      · rcases hsrc with h | ⟨e, he, het⟩
        · obtain ⟨rfl, rfl⟩ := Prod.mk.inj h
          exact .inr ⟨kv.2, List.mem_cons_self, rfl⟩
        · exact .inr ⟨e, List.mem_cons_of_mem _ he, het⟩
      · intro x hx
        rcases List.mem_cons.mp hx with rfl | hx
        · exact hle
        · exact hall x hx
    · obtain ⟨b', t', hf, hsrc, hle, hall⟩ := ih b t
      refine ⟨b', t', by simpa [olderOf, hlt] using hf, ?_, hle, ?_⟩
      · rcases hsrc with h | ⟨e, he, het⟩
        · exact .inl h
        · exact .inr ⟨e, List.mem_cons_of_mem _ he, het⟩
      · intro x hx
        rcases List.mem_cons.mp hx with rfl | hx
        · omega
        · exact hall x hx

omit [DecidableEq κ] in
theorem leastRecent?_spec (h : c.entries ≠ []) :
    ∃ old ∈ c.entries, c.leastRecent? = some old.1 ∧
      ∀ kv ∈ c.entries, old.2.lastAccessed ≤ kv.2.lastAccessed := by
  obtain ⟨x, rest, hx⟩ := List.exists_cons_of_ne_nil h
  obtain ⟨b', t', hf, hsrc, hle, hall⟩ := foldl_olderOf rest x.1 x.2.lastAccessed
  have hscan : c.leastRecent? = some b' := by
    rw [leastRecent?_eq, hx, List.foldl_cons]
    simp [olderOf, hf]
  have hmin : ∀ kv ∈ c.entries, t' ≤ kv.2.lastAccessed := by
    intro kv hkv
    rw [hx] at hkv
    rcases List.mem_cons.mp hkv with rfl | hkv
    · exact hle
    · exact hall kv hkv
  rcases hsrc with h | ⟨e, he, het⟩
  · obtain ⟨rfl, rfl⟩ := Prod.mk.inj h
    exact ⟨x, by simp [hx], hscan, hmin⟩
  · exact ⟨(b', e), by simp [hx, he], hscan, het ▸ hmin⟩

theorem makeRoom_of_full (hm : 0 < c.maxSize) (hs : c.maxSize ≤ c.size)
    (hk : c.entries.lookup k = none) :
    ∃ old ∈ c.entries, (∀ kv ∈ c.entries, old.2.lastAccessed ≤ kv.2.lastAccessed) ∧
      (c.makeRoom k).entries = c.entries.filter (·.1 != old.1) := by
  have hne : c.entries ≠ [] := by
    intro he
    simp only [size, he, List.length_nil] at hs
    omega
  obtain ⟨old, hold, hlr, hmin⟩ := leastRecent?_spec hne
  refine ⟨old, hold, hmin, ?_⟩
  unfold makeRoom
  rw [if_pos (by simp [hm, hs, hk]), hlr]

theorem makeRoom_of_not_full (hs : c.size < c.maxSize) : c.makeRoom k = c := by
  unfold makeRoom
  rw [if_neg (by simp; omega)]

theorem makeRoom_of_lookup_some (hk : (c.entries.lookup k).isSome) : c.makeRoom k = c := by
  unfold makeRoom
  rw [if_neg (by simp_all)]

theorem lookup_makeRoom_of_none (hk : c.entries.lookup k = none) :
    (c.makeRoom k).entries.lookup k = none := by
  rw [List.lookup_eq_none_iff] at hk ⊢
  exact fun kv hkv => hk kv (mem_makeRoom hkv)

theorem put_of_lookup_none {v : α} (hk : c.entries.lookup k = none) :
    (c.put k v).entries = c.entries ++ [(k, ⟨v, c.ticks, c.ticks⟩)] := by
  simp [put, hk]

theorem size_put_makeRoom_le (hm : 0 < c.maxSize) (hs : c.size ≤ c.maxSize) (v : α) :
    ((c.makeRoom k).put k v).size ≤ c.maxSize := by
  cases hk : c.entries.lookup k with
  | some x =>
    rw [makeRoom_of_lookup_some (by simp [hk]), size_put, if_pos (by simp [hk])]
    exact hs
  | none =>
    have hput : ((c.makeRoom k).put k v).size = (c.makeRoom k).size + 1 := by
      rw [size_put, if_neg (by simp [lookup_makeRoom_of_none hk])]
    by_cases hfull : c.maxSize ≤ c.size
    · obtain ⟨old, hold, -, hroom⟩ := makeRoom_of_full hm hfull hk
      have hlt : (c.makeRoom k).size < c.size := by
        rw [size, hroom]
        refine Nat.lt_of_le_of_ne (List.length_filter_le _ _) fun heq => ?_
        have := List.length_filter_eq_length_iff.mp heq old hold
        simp at this
      omega
    · rw [hput, makeRoom_of_not_full (by omega)]
      omega

end Lookup

/-! ## Callers sharing a cache -/

/-- Where a caller of `get_or_load` stands. -/
inductive Loader (κ α : Type) where
  /-- Not loading. -/
  | idle
  /-- Its lookup missed; it reads the invalidation counter next. -/
  | missed (k : κ)
  /-- It read the counter as `epoch`; its load runs. -/
  | loading (k : κ) (epoch : Nat)
  /-- The load found `v`; the check of the counter comes next. -/
  | loaded (k : κ) (v : α) (epoch : Nat)
  /-- The check passed; the insert comes next. -/
  | checked (k : κ) (v : α) (epoch : Nat)
  /-- It inserted the entry stamped `stamp`; the re-check comes next. -/
  | inserted (k : κ) (epoch stamp : Nat)
  deriving DecidableEq, Repr

/-- Callers sharing one cache: where each loading caller and each invalidating caller stands,
and what the proofs read besides. -/
structure World (κ α : Type) where
  cache : Lookup κ α
  loaders : Nat → Loader κ α
  /-- The invalidation each invalidating caller has begun: its key, and the count it raised
  the counter to. -/
  invalidating : Nat → Option (κ × Nat)
  /-- The counter read by the load whose insert took each stamp. -/
  epochOf : Nat → Nat
  /-- The invalidations run to their end, each with the count it raised the counter to. -/
  invalidated : List (κ × Nat)

/-- One part of one call. -/
inductive Move (κ α : Type) where
  /-- A plain `get`. -/
  | get (k : κ)
  /-- The lookup that begins caller `i`'s `get_or_load`. -/
  | lookup (i : Nat) (k : κ)
  | readCounter (i : Nat)
  /-- Caller `i`'s load returns; an error returns like a load that found nothing. -/
  | load (i : Nat) (found : Option α)
  | check (i : Nat)
  | insert (i : Nat)
  | recheck (i : Nat)
  /-- Caller `j` begins invalidating `k`: the counter goes up. -/
  | bump (j : Nat) (k : κ)
  /-- Caller `j`'s invalidation ends: its key's entry goes. -/
  | remove (j : Nat)

namespace World

open Function (update update_self update_of_ne)

variable {κ α : Type} [DecidableEq κ]

def start (m : Nat) : World κ α :=
  ⟨Lookup.empty m, fun _ => .idle, fun _ => none, fun _ => 0, []⟩

/-- Caller `i`'s `get_or_load` begins with a lookup: a hit returns from the cache, a miss
goes on to load. -/
def lookup (w : World κ α) (i : Nat) (k : κ) : World κ α :=
  match w.loaders i with
  | .idle =>
    match w.cache.get k with
    | (some _, c) => { w with cache := c }
    | (none, c) => { w with cache := c, loaders := update w.loaders i (.missed k) }
  | _ => w

def readCounter (w : World κ α) (i : Nat) : World κ α :=
  match w.loaders i with
  | .missed k => { w with loaders := update w.loaders i (.loading k w.cache.invalidations) }
  | _ => w

def load (w : World κ α) (i : Nat) (found : Option α) : World κ α :=
  match w.loaders i, found with
  | .loading k e, some v => { w with loaders := update w.loaders i (.loaded k v e) }
  | .loading _ _, none => { w with loaders := update w.loaders i .idle }
  | _, _ => w

def check (w : World κ α) (i : Nat) : World κ α :=
  match w.loaders i with
  | .loaded k v e =>
    let next : Loader κ α := if w.cache.invalidations = e then .checked k v e else .idle
    { w with loaders := update w.loaders i next }
  | _ => w

def insert (w : World κ α) (i : Nat) : World κ α :=
  match w.loaders i with
  | .checked k v e =>
    { w with
      cache := (w.cache.makeRoom k).put k v
      loaders := update w.loaders i (.inserted k e w.cache.ticks)
      epochOf := update w.epochOf w.cache.ticks e }
  | _ => w

/-- The re-check: a counter moved since the read takes the insert back, unless another has
replaced it. -/
def recheck (w : World κ α) (i : Nat) : World κ α :=
  match w.loaders i with
  | .inserted k e s =>
    { w with
      cache := if w.cache.invalidations = e then w.cache else w.cache.dropStamped k s
      loaders := update w.loaders i .idle }
  | _ => w

def bump (w : World κ α) (j : Nat) (k : κ) : World κ α :=
  match w.invalidating j with
  | none =>
    { w with
      cache := w.cache.bump
      invalidating := update w.invalidating j (some (k, w.cache.invalidations + 1)) }
  | some _ => w

def remove (w : World κ α) (j : Nat) : World κ α :=
  match w.invalidating j with
  | some (k, n) =>
    { w with
      cache := w.cache.removeKey k
      invalidating := update w.invalidating j none
      invalidated := (k, n) :: w.invalidated }
  | none => w

/-- One move; a move of a caller that does not stand where it applies changes nothing. -/
def move (w : World κ α) : Move κ α → World κ α
  | .get k => { w with cache := (w.cache.get k).2 }
  | .lookup i k => w.lookup i k
  | .readCounter i => w.readCounter i
  | .load i found => w.load i found
  | .check i => w.check i
  | .insert i => w.insert i
  | .recheck i => w.recheck i
  | .bump j k => w.bump j k
  | .remove j => w.remove j

def run (w : World κ α) (moves : List (Move κ α)) : World κ α :=
  moves.foldl move w

/-- The worlds reached from an empty cache of at most `m` entries by moves in any order. -/
inductive Reachable (m : Nat) : World κ α → Prop where
  | start : Reachable m (start m)
  | move {w : World κ α} (mv : Move κ α) : Reachable m w → Reachable m (w.move mv)

theorem Reachable.run {m : Nat} {w : World κ α} (h : Reachable m w) (moves : List (Move κ α)) :
    Reachable m (w.run moves) := by
  induction moves generalizing w with
  | nil => exact h
  | cons mv rest ih => exact ih (h.move mv)

/-! ### Running alone -/

/-- A caller whose parts run with nothing between them does what the cache's `beginLoad` and
`finishLoad` do: a hit leaves the cache as the lookup left it, a miss keeps what the load
found unless the counter moved since the lookup. -/
theorem run_loader_alone (w : World κ α) (i : Nat) (k : κ) (found : Option α)
    (hi : w.loaders i = .idle) :
    (w.run [.lookup i k, .readCounter i, .load i found, .check i, .insert i, .recheck i]).cache =
      (w.cache.beginLoad k).1.elim (fun _ => (w.cache.beginLoad k).2)
        fun epoch => (w.cache.beginLoad k).2.finishLoad k found epoch := by
  simp only [run, List.foldl_cons, List.foldl_nil, move, Lookup.beginLoad]
  cases hget : w.cache.get k with
  | mk v c =>
    cases v with
    | some v =>
      simp [lookup, hi, hget, readCounter, load, check, insert, recheck]
    | none =>
      cases found with
      | none => simp [lookup, hi, hget, readCounter, load, check, insert, recheck,
          Lookup.finishLoad]
      | some u =>
        simp [lookup, hi, hget, readCounter, load, check, insert, recheck,
          Lookup.finishLoad, Lookup.insertUnlessInvalidated_eq]

theorem run_invalidation_alone (w : World κ α) (j : Nat) (k : κ)
    (hj : w.invalidating j = none) :
    (w.run [.bump j k, .remove j]).cache = (w.cache.invalidate k).2 := by
  simp [run, move, bump, remove, hj, Lookup.invalidate_snd]

/-! ### What every reached world keeps -/

/-- What holds in every world reached from an empty cache of at most `m` entries. -/
structure Coherent (m : Nat) (w : World κ α) : Prop where
  maxSize : w.cache.maxSize = m
  bounded : 0 < m → w.cache.size ≤ m
  stamp_lt : ∀ kv ∈ w.cache.entries, kv.2.stamp < w.cache.ticks
  invalidating_le : ∀ j k n, w.invalidating j = some (k, n) → n ≤ w.cache.invalidations
  invalidated_le : ∀ kn ∈ w.invalidated, kn.2 ≤ w.cache.invalidations
  /-- An entry loaded from a read of the counter before a completed invalidation of its key
  waits for its caller's re-check. -/
  stale_inserted : ∀ kv ∈ w.cache.entries, ∀ n, (kv.1, n) ∈ w.invalidated →
    w.epochOf kv.2.stamp < n → ∃ i, w.loaders i = .inserted kv.1 (w.epochOf kv.2.stamp) kv.2.stamp

variable {m : Nat} {w : World κ α}

omit [DecidableEq κ] in
theorem coherent_start : Coherent m (start m : World κ α) where
  maxSize := rfl
  bounded _ := Nat.zero_le _
  stamp_lt := by simp [start, Lookup.empty]
  invalidating_le := by simp [start]
  invalidated_le := by simp [start]
  stale_inserted := by simp [start, Lookup.empty]

omit [DecidableEq κ] in
/-- A move that changes entries only by marking them used, takes no tick back, leaves the
counter, and leaves every caller that has inserted where it stands keeps coherence. -/
theorem Coherent.of_entries {w' : World κ α} (h : Coherent m w)
    (hmax : w'.cache.maxSize = w.cache.maxSize) (hsize : w'.cache.size ≤ w.cache.size)
    (hticks : w.cache.ticks ≤ w'.cache.ticks)
    (hcount : w'.cache.invalidations = w.cache.invalidations)
    (hentries : ∀ kv ∈ w'.cache.entries, ∃ x, (kv.1, x) ∈ w.cache.entries ∧ x.stamp = kv.2.stamp)
    (hinvalidating : w'.invalidating = w.invalidating) (hinvalidated : w'.invalidated = w.invalidated)
    (hepoch : w'.epochOf = w.epochOf)
    (hloaders : ∀ i k e s, w.loaders i = .inserted k e s → w'.loaders i = .inserted k e s) :
    Coherent m w' where
  maxSize := hmax.trans h.maxSize
  bounded hm := Nat.le_trans hsize (h.bounded hm)
  stamp_lt kv hkv := by
    obtain ⟨x, hx, hs⟩ := hentries kv hkv
    have := h.stamp_lt _ hx
    simp only at this
    omega
  invalidating_le j k n hj := by
    rw [hcount]
    exact h.invalidating_le j k n (hinvalidating ▸ hj)
  invalidated_le kn hkn := by
    rw [hcount]
    exact h.invalidated_le kn (hinvalidated ▸ hkn)
  stale_inserted kv hkv n hn hlt := by
    obtain ⟨x, hx, hs⟩ := hentries kv hkv
    rw [hinvalidated] at hn
    rw [hepoch, ← hs] at hlt ⊢
    obtain ⟨i, hi⟩ := h.stale_inserted _ hx n hn hlt
    exact ⟨i, hloaders _ _ _ _ hi⟩

omit [DecidableEq κ] in
theorem Coherent.of_loader (h : Coherent m w) {i : Nat} (hi : ∀ k e s, w.loaders i ≠ .inserted k e s)
    (p : Loader κ α) :
    Coherent m { w with loaders := update w.loaders i p } := by
  refine h.of_entries rfl (Nat.le_refl _) (Nat.le_refl _) rfl (fun kv hkv => ⟨kv.2, hkv, rfl⟩) rfl rfl rfl ?_
  intro i' k e s hi'
  have hne : i' ≠ i := by
    rintro rfl
    exact hi k e s hi'
  simpa [update_of_ne hne] using hi'

theorem Coherent.get (h : Coherent m w) (k : κ) :
    Coherent m { w with cache := (w.cache.get k).2 } :=
  h.of_entries (by simp) (by simp) (Lookup.ticks_le_get _ _) (by simp)
    (fun _ hkv => by
      obtain ⟨x, hx, -, hs⟩ := Lookup.mem_get hkv
      exact ⟨x, hx, hs⟩)
    rfl rfl rfl (fun _ _ _ _ hi => hi)

theorem Coherent.lookup (h : Coherent m w) (i : Nat) (k : κ) : Coherent m (w.lookup i k) := by
  unfold World.lookup
  split
  · rename_i hi
    have hget := h.get k
    split
    · rename_i c hc
      simpa [hc] using hget
    · rename_i c hc
      rw [hc] at hget
      exact hget.of_loader (by simp [hi]) _
  · exact h

omit [DecidableEq κ] in
theorem Coherent.readCounter (h : Coherent m w) (i : Nat) : Coherent m (w.readCounter i) := by
  unfold World.readCounter
  split
  · rename_i k hi
    exact h.of_loader (by simp [hi]) _
  · exact h

omit [DecidableEq κ] in
theorem Coherent.load (h : Coherent m w) (i : Nat) (found : Option α) :
    Coherent m (w.load i found) := by
  unfold World.load
  split
  · rename_i k e v hi
    exact h.of_loader (by simp [hi]) _
  · rename_i k e hi
    exact h.of_loader (by simp [hi]) _
  · exact h

omit [DecidableEq κ] in
theorem Coherent.check (h : Coherent m w) (i : Nat) : Coherent m (w.check i) := by
  unfold World.check
  split
  · rename_i k v e hi
    exact h.of_loader (i := i) (by simp [hi]) _
  · exact h

/-- The insert: its entry waits for its own caller's re-check; the entries it leaves are
older than its stamp, so their loads' reads stay as they were. -/
theorem Coherent.insert (h : Coherent m w) (i : Nat) : Coherent m (w.insert i) := by
  unfold World.insert
  split
  · rename_i k v e hi
    have hold : ∀ kv ∈ ((w.cache.makeRoom k).put k v).entries,
        kv = (k, ⟨v, w.cache.ticks, w.cache.ticks⟩) ∨ kv ∈ w.cache.entries := by
      intro kv hkv
      rcases Lookup.mem_put hkv with hnew | hkv
      · exact .inl (by simpa using hnew)
      · exact .inr (Lookup.mem_makeRoom hkv)
    refine ⟨by simpa using h.maxSize, fun hm => ?_, ?_, ?_, ?_, ?_⟩
    · have := Lookup.size_put_makeRoom_le (k := k) (h.maxSize ▸ hm) (h.maxSize ▸ h.bounded hm) v
      simpa [h.maxSize] using this
    · intro kv hkv
      rcases hold kv hkv with rfl | hkv
      · simp
      · have := h.stamp_lt kv hkv
        simp only [Lookup.put_ticks, Lookup.makeRoom_ticks]
        omega
    · simpa using h.invalidating_le
    · simpa using h.invalidated_le
    · intro kv hkv n hn hlt
      rcases hold kv hkv with rfl | hkv
      · exact ⟨i, by simp⟩
      · have hne : kv.2.stamp ≠ w.cache.ticks := Nat.ne_of_lt (h.stamp_lt kv hkv)
        simp only [update_of_ne hne] at hlt ⊢
        obtain ⟨i', hi'⟩ := h.stale_inserted kv hkv n hn hlt
        have hii : i' ≠ i := by
          rintro rfl
          simp [hi] at hi'
        exact ⟨i', by simpa [update_of_ne hii] using hi'⟩
  · exact h

/-- The re-check: the caller it ends is the one an entry it would have taken back waits for,
and the counter moved since that caller's read. -/
theorem Coherent.recheck (h : Coherent m w) (i : Nat) : Coherent m (w.recheck i) := by
  unfold World.recheck
  split
  · rename_i k e s hi
    have hsub : ∀ kv ∈ (if w.cache.invalidations = e then w.cache else
        w.cache.dropStamped k s).entries, kv ∈ w.cache.entries := by
      intro kv hkv
      split at hkv
      · exact hkv
      · exact (Lookup.mem_dropStamped.mp hkv).1
    refine ⟨?_, fun hm => ?_, ?_, ?_, ?_, ?_⟩
    · split <;> simpa using h.maxSize
    · refine Nat.le_trans ?_ (h.bounded hm)
      split
      · exact Nat.le_refl _
      · exact List.length_filter_le _ _
    · intro kv hkv
      have := h.stamp_lt kv (hsub kv hkv)
      split <;> simpa using this
    · split <;> simpa using h.invalidating_le
    · split <;> simpa using h.invalidated_le
    · intro kv hkv n hn hlt
      dsimp only at hn hlt ⊢
      obtain ⟨i', hi'⟩ := h.stale_inserted kv (hsub kv hkv) n hn hlt
      by_cases hii : i' = i
      · -- the entry waits for this very re-check, which takes it back
        subst hii
        rw [hi] at hi'
        obtain ⟨rfl, rfl, rfl⟩ := Loader.inserted.inj hi'
        have hle := h.invalidated_le _ hn
        rw [if_neg (by simp only at hle; omega)] at hkv
        exact absurd ⟨rfl, rfl⟩ (Lookup.mem_dropStamped.mp hkv).2
      · exact ⟨i', by simpa [update_of_ne hii] using hi'⟩
  · exact h

omit [DecidableEq κ] in
theorem Coherent.bump (h : Coherent m w) (j : Nat) (k : κ) : Coherent m (w.bump j k) := by
  unfold World.bump
  split
  · rename_i hj
    refine ⟨by simpa using h.maxSize, by simpa using h.bounded, by simpa using h.stamp_lt,
      ?_, ?_, by simpa using h.stale_inserted⟩
    · intro j' k' n hj'
      by_cases hjj : j' = j
      · subst hjj
        simp only [update_self, Option.some.injEq, Prod.mk.injEq] at hj'
        simp [hj'.2]
      · simp only [update_of_ne hjj] at hj'
        have := h.invalidating_le j' k' n hj'
        simp only [Lookup.bump_invalidations]
        omega
    · intro kn hkn
      have := h.invalidated_le kn hkn
      simp only [Lookup.bump_invalidations]
      omega
  · exact h

theorem Coherent.remove (h : Coherent m w) (j : Nat) : Coherent m (w.remove j) := by
  unfold World.remove
  split
  · rename_i k n hj
    refine ⟨by simpa using h.maxSize, fun hm => ?_, ?_, ?_, ?_, ?_⟩
    · exact Nat.le_trans (List.length_filter_le _ _) (h.bounded hm)
    · intro kv hkv
      simpa using h.stamp_lt kv (Lookup.mem_removeKey.mp hkv).1
    · intro j' k' n' hj'
      by_cases hjj : j' = j
      · subst hjj
        simp at hj'
      · simpa using h.invalidating_le j' k' n' (by simpa [update_of_ne hjj] using hj')
    · intro kn hkn
      rcases List.mem_cons.mp hkn with rfl | hkn
      · simpa using h.invalidating_le j k n hj
      · simpa using h.invalidated_le kn hkn
    · intro kv hkv n' hn' hlt
      obtain ⟨hkv, hne⟩ := Lookup.mem_removeKey.mp hkv
      rcases List.mem_cons.mp hn' with hn' | hn'
      · exact absurd (Prod.mk.inj hn').1 hne
      · exact h.stale_inserted kv hkv n' hn' hlt
  · exact h

theorem Coherent.move (h : Coherent m w) : ∀ mv : Move κ α, Coherent m (w.move mv)
  | .get k => h.get k
  | .lookup i k => h.lookup i k
  | .readCounter i => h.readCounter i
  | .load i found => h.load i found
  | .check i => h.check i
  | .insert i => h.insert i
  | .recheck i => h.recheck i
  | .bump j k => h.bump j k
  | .remove j => h.remove j

theorem Reachable.coherent (h : Reachable m w) : Coherent m w := by
  induction h with
  | start => exact coherent_start
  | move mv _ ih => exact ih.move mv

/-! ### The guarantees -/

theorem recheck_takes_back {i : Nat} {k : κ} {e s : Nat} (hi : w.loaders i = .inserted k e s)
    (he : e ≠ w.cache.invalidations) :
    ∀ y, (k, y) ∈ (w.move (.recheck i)).cache.entries → y.stamp ≠ s := by
  intro y hy
  simp only [move, World.recheck, hi, if_neg (Ne.symm he)] at hy
  exact fun hs => (Lookup.mem_dropStamped.mp hy).2 ⟨rfl, hs⟩

theorem load_none_cache (i : Nat) : (w.move (.load i none)).cache = w.cache := by
  simp only [move, World.load]
  split <;> rfl

/-- Over any order of the parts of lookups, loads and invalidations on a cache of at most `m`
entries: a value that a lookup of a key finds, after an invalidation of the key has completed
and was loaded from a read of the counter before it, waits for its caller's re-check, which
takes it back; a load that finds nothing leaves the cache as it was; a cache of at most
`m ≥ 1` entries holds no more; and an insert of a new key into a full cache evicts an entry
used least recently. -/
theorem loads_race_invalidations (hw : Reachable m w) :
    (∀ k v, (w.cache.get k).1 = some v → ∃ x, (k, x) ∈ w.cache.entries ∧ x.value = v ∧
      ∀ n, (k, n) ∈ w.invalidated → w.epochOf x.stamp < n →
        ∃ i, w.loaders i = .inserted k (w.epochOf x.stamp) x.stamp ∧
          ∀ y, (k, y) ∈ (w.move (.recheck i)).cache.entries → y.stamp ≠ x.stamp) ∧
    (∀ i, (w.move (.load i none)).cache = w.cache) ∧
    (0 < m → w.cache.size ≤ m) ∧
    (∀ i k v e, w.loaders i = .checked k v e → 0 < m → w.cache.size = m →
      w.cache.entries.lookup k = none →
      ∃ old ∈ w.cache.entries, (∀ kv ∈ w.cache.entries, old.2.lastAccessed ≤ kv.2.lastAccessed) ∧
        (w.move (.insert i)).cache.entries =
          w.cache.entries.filter (·.1 != old.1) ++ [(k, ⟨v, w.cache.ticks, w.cache.ticks⟩)]) := by
  have hc := hw.coherent
  refine ⟨fun k v hget => ?_, fun i => load_none_cache i, hc.bounded, ?_⟩
  · obtain ⟨x, hx, hv⟩ := Lookup.get_fst_eq_some hget
    refine ⟨x, hx, hv, fun n hn hlt => ?_⟩
    obtain ⟨i, hi⟩ : ∃ i, w.loaders i = .inserted k (w.epochOf x.stamp) x.stamp :=
      hc.stale_inserted (k, x) hx n hn hlt
    have hle := hc.invalidated_le _ hn
    exact ⟨i, hi, recheck_takes_back hi (by simp only at hle; omega)⟩
  · intro i k v e hi hm hfull hk
    obtain ⟨old, hold, hmin, hroom⟩ :=
      Lookup.makeRoom_of_full (hc.maxSize ▸ hm) (by have := hc.maxSize; omega) hk
    refine ⟨old, hold, hmin, ?_⟩
    simp only [move, World.insert, hi]
    rw [Lookup.put_of_lookup_none (Lookup.lookup_makeRoom_of_none hk), hroom,
      Lookup.makeRoom_ticks]

/-! ### A value served after its invalidation -/

def staleRace (k : κ) (v : α) : List (Move κ α) :=
  [.lookup 0 k, .readCounter 0, .load 0 (some v), .check 0, .bump 0 k, .remove 0, .insert 0]

def raceWorld : World String String :=
  (start 1).run (staleRace "job" "old")

/-- After an invalidation of a key has completed, a lookup of the key finds the value of a
load that read the counter before it. -/
theorem get_serves_value_loaded_before_invalidation :
    Reachable 1 raceWorld ∧ ("job", 1) ∈ raceWorld.invalidated ∧
      (raceWorld.cache.get "job").1 = some "old" ∧
      ∃ x, ("job", x) ∈ raceWorld.cache.entries ∧ x.value = "old" ∧ raceWorld.epochOf x.stamp < 1 :=
  ⟨Reachable.start.run _, by decide, by decide, ⟨⟨"old", 0, 0⟩, by decide, rfl, by decide⟩⟩

/-- In the race's world the guarantees hold: the value found waits for its caller's re-check. -/
theorem race_world_awaits_recheck :
    Reachable 1 raceWorld ∧
    (∀ k v, (raceWorld.cache.get k).1 = some v → ∃ x, (k, x) ∈ raceWorld.cache.entries ∧
      x.value = v ∧ ∀ n, (k, n) ∈ raceWorld.invalidated → raceWorld.epochOf x.stamp < n →
        ∃ i, raceWorld.loaders i = .inserted k (raceWorld.epochOf x.stamp) x.stamp ∧
          ∀ y, (k, y) ∈ (raceWorld.move (.recheck i)).cache.entries → y.stamp ≠ x.stamp) ∧
    (∀ i, (raceWorld.move (.load i none)).cache = raceWorld.cache) ∧
    (0 < 1 → raceWorld.cache.size ≤ 1) ∧
    (∀ i k v e, raceWorld.loaders i = .checked k v e → 0 < 1 → raceWorld.cache.size = 1 →
      raceWorld.cache.entries.lookup k = none →
      ∃ old ∈ raceWorld.cache.entries,
        (∀ kv ∈ raceWorld.cache.entries, old.2.lastAccessed ≤ kv.2.lastAccessed) ∧
        (raceWorld.move (.insert i)).cache.entries =
          raceWorld.cache.entries.filter (·.1 != old.1) ++
            [(k, ⟨v, raceWorld.cache.ticks, raceWorld.cache.ticks⟩)]) :=
  ⟨Reachable.start.run _, loads_race_invalidations (Reachable.start.run _)⟩

end World

end DeviceFleet.Cache
