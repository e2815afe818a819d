import CatalogScout.Pattern.Basic

/-!
Patterns as they are written in a selection.  There a star stands for any row of characters, so
before a pattern is read each star is preceded by a dot.
-/

namespace CatalogScout
namespace Pattern

/-- The text with a dot in front of each star. -/
def starred (source : List Char) : List Char :=
  source.flatMap fun c => if c = '*' then ['.', '*'] else [c]

@[simp]
theorem starred_append (a b : List Char) : starred (a ++ b) = starred a ++ starred b :=
  List.flatMap_append

theorem starred_of_not_mem {s : List Char} (h : '*' ∉ s) : starred s = s := by
  induction s with
  | nil => rfl
  | cons c r ih =>
    simp only [List.mem_cons, not_or] at h
    simp only [starred, List.flatMap_cons, if_neg (Ne.symm h.1)]
    exact congrArg (c :: ·) (ih h.2)

end Pattern
end CatalogScout
