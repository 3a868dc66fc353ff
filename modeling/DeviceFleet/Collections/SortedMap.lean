/-!
# Maps kept sorted by key

A finite map from text keys, stored as a list of entries in increasing key order with each
key once. Lookup, insertion and removal keep that order, so listing a map gives its entries
sorted by key.
-/

namespace DeviceFleet

abbrev SortedMap (α : Type) := List (String × α)

namespace SortedMap

variable {α : Type}

def find? (m : SortedMap α) (k : String) : Option α :=
  m.lookup k

def contains (m : SortedMap α) (k : String) : Bool :=
  (m.find? k).isSome

def insert (m : SortedMap α) (k : String) (v : α) : SortedMap α :=
  match m with
  | [] => [(k, v)]
  | (k', v') :: rest =>
    if k = k' then (k, v) :: rest
    else if k < k' then (k, v) :: (k', v') :: rest
    else (k', v') :: insert rest k v

def erase (m : SortedMap α) (k : String) : SortedMap α :=
  m.filter (·.1 != k)

def keys (m : SortedMap α) : List String :=
  m.map Prod.fst

/-- A map of a list of entries; later entries replace earlier ones. -/
def ofList (xs : List (String × α)) : SortedMap α :=
  xs.foldl (fun m kv => m.insert kv.1 kv.2) []

theorem find_insert_self (m : SortedMap α) (k : String) (v : α) :
    (m.insert k v).find? k = some v := by
  induction m with
  | nil => simp [insert, find?]
  | cons e rest ih =>
    obtain ⟨k', v'⟩ := e
    unfold insert
    by_cases h : k = k'
    · subst h; simp [find?]
    · by_cases h2 : k < k'
      · simp [h, h2, find?]
      · have hne : (k == k') = false := by simpa using h
        simp only [h, h2, if_false]
        simp only [find?, List.lookup_cons, hne] at ih ⊢
        exact ih

theorem find_insert_of_ne (m : SortedMap α) {k k' : String} (v : α) (h : k' ≠ k) :
    (m.insert k v).find? k' = m.find? k' := by
  have hne : (k' == k) = false := by simpa using h
  induction m with
  | nil => simp [insert, find?, List.lookup_cons, hne]
  | cons e rest ih =>
    obtain ⟨k'', v'⟩ := e
    unfold insert
    by_cases h1 : k = k''
    · subst h1
      simp [find?, List.lookup_cons, hne]
    · by_cases h2 : k < k''
      · simp [h1, h2, find?, List.lookup_cons, hne]
      · simp only [h1, h2, if_false]
        simp only [find?, List.lookup_cons] at ih ⊢
        rw [ih]

end SortedMap

end DeviceFleet
