/-!
# A look-aside cache

A bounded cache in front of a slower lookup. A miss runs the loader and keeps what it found,
unless some key was invalidated while the loader ran: then the loaded value may already be
stale and is not kept. When the cache is full, the entry used least recently makes room.
-/

namespace DeviceFleet.Cache

/-- A cached value with the tick it was written at and the tick of its last use. -/
structure Entry (α : Type) where
  value : α
  stamp : Nat
  lastAccessed : Nat
  deriving DecidableEq, Repr

/-- The cache's state. `maxSize = 0` means unbounded. -/
structure Lookup (κ α : Type) where
  entries : List (κ × Entry α) := []
  maxSize : Nat
  ticks : Nat := 0
  invalidations : Nat := 0
  hits : Nat := 0
  misses : Nat := 0
  deriving Repr

namespace Lookup

variable {κ α : Type} [DecidableEq κ]

def empty (maxSize : Nat) : Lookup κ α := { maxSize }

def size (c : Lookup κ α) : Nat := c.entries.length

/-- Look a key up, counting a hit or a miss and marking a hit as used. -/
def get (c : Lookup κ α) (k : κ) : Option α × Lookup κ α :=
  match c.entries.lookup k with
  | none => (none, { c with misses := c.misses + 1 })
  | some e =>
    let now := c.ticks
    let entries := c.entries.map fun (kv : κ × Entry α) =>
      if kv.1 = k then (kv.1, { kv.2 with lastAccessed := now }) else kv
    (some e.value, { c with hits := c.hits + 1, ticks := now + 1, entries })

/-- Drop a key, telling whether it was cached; any load running meanwhile will not be kept. -/
def invalidate (c : Lookup κ α) (k : κ) : Bool × Lookup κ α :=
  ((c.entries.lookup k).isSome,
    { c with invalidations := c.invalidations + 1, entries := c.entries.filter (·.1 != k) })

def leastRecent? (c : Lookup κ α) : Option κ :=
  (c.entries.foldl (fun (best : Option (κ × Nat)) (kv : κ × Entry α) =>
    match best with
    | some (_, t) => if kv.2.lastAccessed < t then some (kv.1, kv.2.lastAccessed) else best
    | none => some (kv.1, kv.2.lastAccessed)) none).map Prod.fst

/-- Keep a loaded value, unless an invalidation happened since the load began (`epoch` is the
invalidation count then); a full cache first drops its least recently used entry. -/
def insertUnlessInvalidated (c : Lookup κ α) (k : κ) (v : α) (epoch : Nat) : Lookup κ α :=
  if c.invalidations ≠ epoch then c
  else
    let c := if c.maxSize > 0 && c.size ≥ c.maxSize && (c.entries.lookup k).isNone then
        match c.leastRecent? with
        | some old => { c with entries := c.entries.filter (·.1 != old) }
        | none => c
      else c
    let stamp := c.ticks
    let e : Entry α := ⟨v, stamp, stamp⟩
    let entries := if (c.entries.lookup k).isSome then
        c.entries.map fun (kv : κ × Entry α) => if kv.1 = k then (kv.1, e) else kv
      else c.entries ++ [(k, e)]
    { c with ticks := stamp + 1, entries }

/-- How a load begins: with the cached value, or with the invalidation count to compare
against when the loaded value comes back. -/
def beginLoad (c : Lookup κ α) (k : κ) : (Option α ⊕ Nat) × Lookup κ α :=
  match c.get k with
  | (some v, c') => (.inl (some v), c')
  | (none, c') => (.inr c'.invalidations, c')

/-- How a load ends: a found value is kept unless invalidated meanwhile. -/
def finishLoad (c : Lookup κ α) (k : κ) (loaded : Option α) (epoch : Nat) : Lookup κ α :=
  match loaded with
  | some v => c.insertUnlessInvalidated k v epoch
  | none => c

theorem insert_skipped_after_invalidation (c : Lookup κ α) (k : κ) (v : α) (epoch : Nat)
    (h : c.invalidations ≠ epoch) : c.insertUnlessInvalidated k v epoch = c := by
  simp [insertUnlessInvalidated, h]

end Lookup

end DeviceFleet.Cache
