/-!
Cutting text at separators.
-/

namespace CatalogScout
namespace Text

/-- The pieces between the separators.  There is one more of them than separators, so the
empty text has one piece, the empty one. -/
def fields (sep : Char) : List Char → List (List Char)
  | [] => [[]]
  | c :: r =>
    if c = sep then [] :: fields sep r
    else
      match fields sep r with
      | [] => [[c]]
      | p :: ps => (c :: p) :: ps

/-- Cut at the first character of a class, which belongs to neither part. -/
def cutAt (cut : Char → Bool) : List Char → Option (List Char × List Char)
  | [] => none
  | c :: r => if cut c then some ([], r) else (cutAt cut r).map fun (a, b) => (c :: a, b)

/-- The text without a given beginning, if it begins so. -/
def dropBeginning : List Char → List Char → Option (List Char)
  | [], s => some s
  | _ :: _, [] => none
  | h :: hs, c :: r => if h = c then dropBeginning hs r else none

/-- The text before a character, or all of it. -/
def upTo (c : Char) (s : List Char) : List Char := s.takeWhile (· != c)

/-- The text behind the last of a character, or all of it. -/
def behindLast (c : Char) (s : List Char) : List Char :=
  (s.reverse.takeWhile (· != c)).reverse

theorem fields_ne_nil (sep : Char) (s : List Char) : fields sep s ≠ [] := by
  cases s with
  | nil => simp [fields]
  | cons c r =>
    simp only [fields]
    split
    · simp
    · split <;> simp

theorem fields_of_not_mem {sep : Char} {s : List Char} (h : sep ∉ s) : fields sep s = [s] := by
  induction s with
  | nil => rfl
  | cons c r ih =>
    simp only [List.mem_cons, not_or] at h
    simp [fields, ih h.2, Ne.symm h.1]

theorem fields_append_sep {sep : Char} {a : List Char} (h : sep ∉ a) (b : List Char) :
    fields sep (a ++ sep :: b) = a :: fields sep b := by
  induction a with
  | nil => simp [fields]
  | cons c r ih =>
    simp only [List.mem_cons, not_or] at h
    simp only [List.cons_append, fields, if_neg (Ne.symm h.1), ih h.2]

/-- No piece holds the separator. -/
theorem not_mem_of_mem_fields {sep : Char} {s p : List Char} (h : p ∈ fields sep s) :
    sep ∉ p := by
  induction s generalizing p with
  | nil =>
    obtain rfl : p = [] := by simpa [fields] using h
    simp
  | cons c r ih =>
    simp only [fields] at h
    split at h
    · rcases List.mem_cons.1 h with rfl | h
      · simp
      · exact ih h
    · next hc =>
      split at h
      · next hf => exact absurd hf (fields_ne_nil sep r)
      · next q qs hf =>
        rcases List.mem_cons.1 h with rfl | h
        · have hq := ih (hf ▸ List.mem_cons_self)
          simp [Ne.symm hc, hq]
        · exact ih (hf ▸ List.mem_cons_of_mem _ h)

/-- The first part has no character of the class, and a character of the class stands between
the parts. -/
theorem cutAt_eq_some_iff (cut : Char → Bool) (s a b : List Char) :
    cutAt cut s = some (a, b) ↔
      ∃ c, s = a ++ c :: b ∧ cut c = true ∧ ∀ d ∈ a, cut d = false := by
  induction s generalizing a with
  | nil => simp [cutAt]
  | cons c r ih =>
    by_cases hc : cut c = true
    · simp only [cutAt, hc, if_true, Option.some.injEq, Prod.mk.injEq]
      constructor
      · rintro ⟨rfl, rfl⟩
        exact ⟨c, by simp [hc]⟩
      · rintro ⟨d, hs, hd, ha⟩
        cases a with
        | nil => simpa [eq_comm] using (List.cons.inj hs).2
        | cons x xs =>
          obtain ⟨rfl, -⟩ := List.cons.inj hs
          exact absurd hc (by simp [ha c List.mem_cons_self])
    · have hc' : cut c = false := by simpa using hc
      simp only [cutAt, hc', Bool.false_eq_true, if_false, Option.map_eq_some_iff, Prod.exists,
        Prod.mk.injEq]
      constructor
      · rintro ⟨x, y, hxy, rfl, rfl⟩
        obtain ⟨d, rfl, hd, ha⟩ := (ih x).1 hxy
        refine ⟨d, by simp, hd, fun e he => ?_⟩
        rcases List.mem_cons.1 he with rfl | he
        · exact hc'
        · exact ha e he
      · rintro ⟨d, hs, hd, ha⟩
        cases a with
        | nil =>
          obtain ⟨rfl, -⟩ := List.cons.inj hs
          exact absurd hd hc
        | cons x xs =>
          obtain ⟨rfl, rfl⟩ := List.cons.inj hs
          exact ⟨xs, b, (ih xs).2 ⟨d, rfl, hd, fun e he => ha e (List.mem_cons_of_mem _ he)⟩,
            rfl, rfl⟩

theorem dropBeginning_eq_some_iff (h s r : List Char) :
    dropBeginning h s = some r ↔ s = h ++ r := by
  induction h generalizing s with
  | nil => simp [dropBeginning]
  | cons c cs ih =>
    cases s with
    | nil => simp [dropBeginning]
    | cons d ds =>
      by_cases hc : c = d
      · subst hc; simp [dropBeginning, ih]
      · simp [dropBeginning, hc, Ne.symm hc]

end Text
end CatalogScout
