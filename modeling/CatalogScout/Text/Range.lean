/-!
Character properties as closed intervals of code points.  A property table is a list of such
intervals, and membership is the only question asked of it.
-/

namespace CatalogScout
namespace Text

/-- The code point lies in one of the intervals. -/
def inRanges (table : List (Nat × Nat)) (code : Nat) : Bool :=
  table.any fun r => r.1 ≤ code && code ≤ r.2

theorem inRanges_iff (table : List (Nat × Nat)) (code : Nat) :
    inRanges table code = true ↔ ∃ r ∈ table, r.1 ≤ code ∧ code ≤ r.2 := by
  simp [inRanges]

end Text
end CatalogScout
