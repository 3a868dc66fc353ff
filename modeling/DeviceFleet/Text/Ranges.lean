/-!
# Sets of code points as sorted ranges

A set of code points is kept as an array of inclusive ranges `(first, last)`, sorted and
disjoint. Membership is found by binary search; a positive answer always names a range that
holds the code point, whatever the array.
-/

namespace DeviceFleet.Text

/-- Binary search for a range holding `n` among `rs[lo]` to `rs[hi - 1]`; `fuel` bounds the
halvings. -/
def rangeSearch (rs : Array (Nat × Nat)) (n : Nat) : Nat → Nat → Nat → Option Nat
  | 0, _, _ => none
  | fuel + 1, lo, hi =>
    if lo < hi then
      let mid := (lo + hi) / 2
      match rs[mid]? with
      | some (a, b) =>
        if n < a then rangeSearch rs n fuel lo mid
        else if b < n then rangeSearch rs n fuel (mid + 1) hi
        else some mid
      | none => none
    else none

def inRanges (rs : Array (Nat × Nat)) (n : Nat) : Bool :=
  match rangeSearch rs n (rs.size + 1) 0 rs.size with
  | some i =>
    match rs[i]? with
    | some (a, b) => a ≤ n && n ≤ b
    | none => false
  | none => false

theorem inRanges_sound {rs : Array (Nat × Nat)} {n : Nat} (h : inRanges rs n = true) :
    ∃ p ∈ rs, p.1 ≤ n ∧ n ≤ p.2 := by
  unfold inRanges at h
  split at h
  · rename_i i _
    split at h
    · rename_i a b hi
      refine ⟨(a, b), Array.mem_of_getElem? hi, ?_⟩
      simpa using h
    · exact absurd h (by simp)
  · exact absurd h (by simp)

end DeviceFleet.Text
