/-!
# Sorted ranges of code points

A character property given as a sorted array of disjoint closed ranges of code points, and
the binary search that decides whether a code point lies in one of them. Each step halves the
part of the array left to search, so 64 steps reach every array that fits in memory.
-/

namespace CrudScaffold.Text

/-- Whether a code point lies in one of the sorted, disjoint closed ranges `rs[lo:hi]`,
found by halving the search interval; `fuel` bounds the number of halvings. -/
def inRanges (rs : Array (Nat × Nat)) (n : Nat) : Nat → Nat → Nat → Bool
  | 0, _, _ => false
  | fuel + 1, lo, hi =>
    if hi ≤ lo then false
    else
      let mid := (lo + hi) / 2
      let (a, b) := rs.getD mid (0, 0)
      if n < a then inRanges rs n fuel lo mid
      else if b < n then inRanges rs n fuel (mid + 1) hi
      else true

/-- Whether a code point lies in one of the sorted, disjoint closed ranges `rs`. -/
def Ranges.contains (rs : Array (Nat × Nat)) (n : Nat) : Bool := inRanges rs n 64 0 rs.size

theorem Ranges.contains_empty (n : Nat) : Ranges.contains #[] n = false := by
  simp [Ranges.contains, inRanges]

end CrudScaffold.Text
