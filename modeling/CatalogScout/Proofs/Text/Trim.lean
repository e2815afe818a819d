import CatalogScout.Text.Blank
import CatalogScout.Text.Split

/-!
Blanks around text, cut text, and the fields of joined text.

A reader cuts text at separators and trims the pieces.  White space at the ends of the whole text
ends up at the ends of its first and its last piece, so it does not matter whether it was trimmed
before.
-/

namespace CatalogScout
namespace Text

/-! ## Blanks at the ends -/

theorem trim_cons_blank {c : Char} (h : isBlank c = true) (s : List Char) :
    trim (c :: s) = trim s := by
  rw [trim, trimLeft, List.dropWhile_cons, if_pos h]
  rfl

theorem trimRight_concat_blank {c : Char} (h : isBlank c = true) (s : List Char) :
    trimRight (s ++ [c]) = trimRight s := by
  rw [trimRight, List.reverse_append, List.reverse_singleton, List.singleton_append,
    List.dropWhile_cons, if_pos h]
  rfl

theorem trim_concat_blank {c : Char} (h : isBlank c = true) (s : List Char) :
    trim (s ++ [c]) = trim s := by
  rw [trim, trimLeft, List.dropWhile_append]
  split
  · next hempty =>
    have hs : trimLeft s = [] := List.isEmpty_iff.1 hempty
    rw [trim, hs, List.dropWhile_cons, if_pos h]
    rfl
  · exact trimRight_concat_blank h _

theorem trim_of_no_blank {s : List Char} (h : ∀ c ∈ s, isBlank c = false) : trim s = s := by
  have hkeep : ∀ t : List Char, (∀ c ∈ t, isBlank c = false) → t.dropWhile isBlank = t := by
    intro t ht
    cases t with
    | nil => rfl
    | cons c r => rw [List.dropWhile_cons, ht c List.mem_cons_self]; rfl
  rw [trim, trimRight, trimLeft, hkeep s h, hkeep s.reverse (by simpa using h),
    List.reverse_reverse]

/-- Taking blanks off both ends, one by one, leaves alone what does not depend on them. -/
theorem blank_ends_induction {α : Sort _} {f : List Char → α}
    (hleft : ∀ c s, isBlank c = true → f (c :: s) = f s)
    (hright : ∀ c s, isBlank c = true → f (s ++ [c]) = f s) {front back : List Char}
    (hfront : isBlankText front = true) (hback : isBlankText back = true) (s : List Char) :
    f (front ++ s ++ back) = f s := by
  have hf : f (front ++ s) = f s := by
    induction front with
    | nil => rfl
    | cons c front ih =>
      simp only [isBlankText, List.all_cons, Bool.and_eq_true] at hfront
      rw [List.cons_append, hleft c _ hfront.1]
      exact ih hfront.2
  rw [← hf]
  generalize front ++ s = t
  induction back generalizing t with
  | nil => rw [List.append_nil]
  | cons c back ih =>
    simp only [isBlankText, List.all_cons, Bool.and_eq_true] at hback
    rw [← hright c t hback.1, ← ih hback.2 (t ++ [c]), List.append_assoc, List.singleton_append]

theorem trim_padded {front back : List Char} (hfront : isBlankText front = true)
    (hback : isBlankText back = true) (s : List Char) : trim (front ++ s ++ back) = trim s :=
  blank_ends_induction (fun _ _ h => trim_cons_blank h _) (fun _ _ h => trim_concat_blank h _)
    hfront hback s

theorem isBlankText_takeWhile (s : List Char) : isBlankText (s.takeWhile isBlank) = true := by
  simp [isBlankText, List.all_takeWhile]

/-- Text is its trimmed text with blanks around. -/
theorem eq_padded_trim (s : List Char) :
    ∃ front back, s = front ++ trim s ++ back ∧ isBlankText front = true ∧
      isBlankText back = true := by
  let back := ((trimLeft s).reverse.takeWhile isBlank).reverse
  refine ⟨s.takeWhile isBlank, back, ?_, isBlankText_takeWhile s, ?_⟩
  · have hback : trim s ++ back = trimLeft s := by
      rw [trim, trimRight, ← List.reverse_append, List.takeWhile_append_dropWhile,
        List.reverse_reverse]
    rw [List.append_assoc, hback]
    exact List.takeWhile_append_dropWhile.symm
  · rw [isBlankText, List.all_reverse]
    exact isBlankText_takeWhile _

theorem not_mem_of_blank {s : List Char} {c : Char} (hs : isBlankText s = true)
    (hc : isBlank c = false) : c ∉ s := by
  intro hmem
  rw [List.all_eq_true.1 hs c hmem] at hc
  cases hc

/-- The text neither begins nor ends with a blank. -/
structure NoBlankEnds (s : List Char) : Prop where
  first : ∀ c ∈ s.head?, isBlank c = false
  last : ∀ c ∈ s.getLast?, isBlank c = false

instance (s : List Char) : Decidable (NoBlankEnds s) :=
  match Option.decidableForallMem s.head?, Option.decidableForallMem s.getLast? with
  | isTrue hfirst, isTrue hlast => isTrue ⟨hfirst, hlast⟩
  | isFalse hfirst, _ => isFalse fun h => hfirst h.first
  | _, isFalse hlast => isFalse fun h => hlast h.last

theorem NoBlankEnds.trim_eq {s : List Char} (h : NoBlankEnds s) : trim s = s := by
  obtain ⟨front, back, hs, hfront, hback⟩ := eq_padded_trim s
  have hnofront : front = [] := by
    cases front with
    | nil => rfl
    | cons c front =>
      have hc := h.first c (by rw [hs]; rfl)
      exact absurd List.mem_cons_self (not_mem_of_blank hfront hc)
  have hnoback : back = [] := by
    rcases List.eq_nil_or_concat back with hnil | ⟨back', c, rfl⟩
    · exact hnil
    · have hc := h.last c (by rw [hs]; simp)
      exact absurd (by simp) (not_mem_of_blank hback hc)
  rw [hnofront, hnoback, List.append_nil, List.nil_append] at hs
  exact hs.symm

theorem noBlankEnds_trim (s : List Char) : NoBlankEnds (trim s) := by
  have hfirst : ∀ t : List Char, ∀ c ∈ (t.dropWhile isBlank).head?, isBlank c = false := by
    intro t c hc
    have hnot := List.head?_dropWhile_not isBlank t
    rw [Option.mem_def.1 hc] at hnot
    exact hnot
  refine ⟨fun c hc => hfirst s c ?_, fun c hc => hfirst (trimLeft s).reverse c ?_⟩
  · obtain ⟨back, hback⟩ : trim s <+: trimLeft s := by
      rw [← List.reverse_suffix, trim, trimRight, List.reverse_reverse]
      exact List.dropWhile_suffix _
    show c ∈ (trimLeft s).head?
    rw [← hback, List.head?_append, Option.mem_def.1 hc]
    rfl
  · rwa [trim, trimRight, List.getLast?_reverse] at hc

theorem trim_trim (s : List Char) : trim (trim s) = trim s := (noBlankEnds_trim s).trim_eq

theorem trim_eq_self_iff {s : List Char} : trim s = s ↔ NoBlankEnds s :=
  ⟨fun h => h ▸ noBlankEnds_trim s, NoBlankEnds.trim_eq⟩

/-- Trimming keeps everything but blanks. -/
theorem mem_trim {s : List Char} {c : Char} (hc : c ∈ s) (hblank : isBlank c = false) :
    c ∈ trim s := by
  obtain ⟨front, back, hs, hfront, hback⟩ := eq_padded_trim s
  rw [hs, List.mem_append, List.mem_append] at hc
  exact (hc.resolve_right (not_mem_of_blank hback hblank)).resolve_left
    (not_mem_of_blank hfront hblank)

/-- Behind blanks a trimmed text begins with what is no blank. -/
theorem trim_eq_cons {front s : List Char} {c : Char} (hfront : isBlankText front = true)
    (hc : isBlank c = false) : ∃ r, trim (front ++ c :: s) = c :: r := by
  obtain ⟨blanks, back, hs, hblanks, -⟩ := eq_padded_trim (c :: s)
  have hnone : blanks = [] := by
    cases blanks with
    | nil => rfl
    | cons d blanks =>
      obtain ⟨rfl, -⟩ := List.cons.inj hs
      exact absurd List.mem_cons_self (not_mem_of_blank hblanks hc)
  have hnil : isBlankText [] = true := rfl
  have hsame := trim_padded hfront hnil (c :: s)
  rw [List.append_nil] at hsame
  rw [hsame]
  have hmem := mem_trim (List.mem_cons_self (a := c) (l := s)) hc
  cases htrim : trim (c :: s) with
  | nil =>
    rw [htrim] at hmem
    cases hmem
  | cons d r =>
    rw [hnone, htrim] at hs
    obtain ⟨rfl, -⟩ := List.cons.inj hs
    exact ⟨r, rfl⟩

/-! ## The first character of a class -/

theorem cutAt_eq_none_iff {cut : Char → Bool} {s : List Char} :
    cutAt cut s = none ↔ ∀ c ∈ s, cut c = false := by
  induction s with
  | nil => simp [cutAt]
  | cons c s ih => cases hc : cut c <;> simp [cutAt, hc, ih]

theorem cutAt_cons {cut : Char → Bool} {c : Char} (h : cut c = false) (s : List Char) :
    cutAt cut (c :: s) = (cutAt cut s).map fun (a, b) => (c :: a, b) := by
  rw [cutAt, h]
  rfl

theorem cutAt_concat {cut : Char → Bool} {c : Char} (h : cut c = false) (s : List Char) :
    cutAt cut (s ++ [c]) = (cutAt cut s).map fun (a, b) => (a, b ++ [c]) := by
  induction s with
  | nil =>
    rw [List.nil_append, cutAt_cons h]
    rfl
  | cons d s ih =>
    cases hd : cut d with
    | true => simp [cutAt, hd]
    | false =>
      rw [List.cons_append, cutAt_cons hd, cutAt_cons hd, ih, Option.map_map, Option.map_map]
      rfl

/-! ## Fields -/

theorem fields_cons {sep c : Char} (h : c ≠ sep) {s p : List Char} {ps : List (List Char)}
    (hs : fields sep s = p :: ps) : fields sep (c :: s) = (c :: p) :: ps := by
  rw [fields, if_neg h, hs]

/-- A character behind the text belongs to the last field. -/
theorem fields_concat {sep c : Char} (h : c ≠ sep) (s : List Char) :
    ∃ ps p, fields sep s = ps ++ [p] ∧ fields sep (s ++ [c]) = ps ++ [p ++ [c]] := by
  induction s with
  | nil => exact ⟨[], [], rfl, by simp [fields, h]⟩
  | cons d s ih =>
    obtain ⟨ps, p, hs, hc⟩ := ih
    by_cases hd : d = sep
    · refine ⟨[] :: ps, p, ?_, ?_⟩
      · rw [fields, if_pos hd, hs]
        rfl
      · rw [List.cons_append, fields, if_pos hd, hc]
        rfl
    · cases ps with
      | nil => exact ⟨[], d :: p, fields_cons hd hs, fields_cons hd hc⟩
      | cons q qs => exact ⟨(d :: q) :: qs, p, fields_cons hd hs, fields_cons hd hc⟩

/-- The first field is a beginning of the text, and the others stand further behind. -/
theorem fields_eq_cons (sep : Char) (s : List Char) :
    ∃ p ps, fields sep s = p :: ps ∧ p <+: s ∧ ∀ q ∈ ps, q <:+: s := by
  induction s with
  | nil => exact ⟨[], [], rfl, List.nil_prefix, nofun⟩
  | cons c s ih =>
    obtain ⟨p, ps, hs, hp, hps⟩ := ih
    have hbehind : ∀ {q : List Char}, q <:+: s → q <:+: c :: s := fun h =>
      h.trans (List.suffix_cons c s).isInfix
    by_cases hc : c = sep
    · refine ⟨[], p :: ps, by rw [fields, if_pos hc, hs], List.nil_prefix, ?_⟩
      intro q hq
      rcases List.mem_cons.1 hq with rfl | hq
      · exact hbehind hp.isInfix
      · exact hbehind (hps q hq)
    · exact ⟨c :: p, ps, fields_cons hc hs, List.cons_prefix_cons.2 ⟨rfl, hp⟩,
        fun q hq => hbehind (hps q hq)⟩

theorem infix_of_mem_fields {sep : Char} {s p : List Char} (h : p ∈ fields sep s) : p <:+: s := by
  obtain ⟨q, qs, hs, hq, hqs⟩ := fields_eq_cons sep s
  rw [hs] at h
  rcases List.mem_cons.1 h with rfl | h
  · exact hq.isInfix
  · exact hqs p h

theorem trim_isInfix (s : List Char) : trim s <:+: s := by
  obtain ⟨front, back, hs, -, -⟩ := eq_padded_trim s
  exact ⟨front, back, hs.symm⟩

/-- Only separators belong to no field. -/
theorem exists_field_of_mem {sep c : Char} (hc : c ≠ sep) {s : List Char} (h : c ∈ s) :
    ∃ p ∈ fields sep s, c ∈ p := by
  induction s with
  | nil => exact absurd h List.not_mem_nil
  | cons d s ih =>
    by_cases hd : d = sep
    · rw [fields, if_pos hd]
      have hs : c ∈ s := (List.mem_cons.1 h).resolve_left fun hcd => hc (hcd.trans hd)
      obtain ⟨p, hp, hcp⟩ := ih hs
      exact ⟨p, List.mem_cons_of_mem _ hp, hcp⟩
    · obtain ⟨q, qs, hs, -, -⟩ := fields_eq_cons sep s
      rw [fields_cons hd hs]
      rw [hs] at ih
      rcases List.mem_cons.1 h with rfl | h
      · exact ⟨c :: q, List.mem_cons_self, List.mem_cons_self⟩
      · obtain ⟨p, hp, hcp⟩ := ih h
        rcases List.mem_cons.1 hp with rfl | hp
        · exact ⟨d :: p, List.mem_cons_self, List.mem_cons_of_mem _ hcp⟩
        · exact ⟨p, List.mem_cons_of_mem _ hp, hcp⟩

theorem fields_intercalate {sep : Char} {parts : List (List Char)} (hne : parts ≠ [])
    (h : ∀ p ∈ parts, sep ∉ p) : fields sep ([sep].intercalate parts) = parts := by
  induction parts with
  | nil => exact absurd rfl hne
  | cons p parts ih =>
    have hp := h p List.mem_cons_self
    by_cases hlast : parts = []
    · subst hlast
      rw [List.intercalate_singleton, fields_of_not_mem hp]
    · have hrest := ih hlast fun q hq => h q (List.mem_cons_of_mem p hq)
      rw [List.intercalate_cons_of_ne_nil hlast, List.append_assoc]
      exact (fields_append_sep hp _).trans (congrArg (p :: ·) hrest)

theorem intercalate_fields (sep : Char) (s : List Char) :
    [sep].intercalate (fields sep s) = s := by
  induction s with
  | nil => rfl
  | cons c s ih =>
    by_cases hc : c = sep
    · rw [fields, if_pos hc, List.intercalate_cons_of_ne_nil (fields_ne_nil sep s), ih, hc]
      rfl
    · obtain ⟨p, ps, hs, -, -⟩ := fields_eq_cons sep s
      rw [fields_cons hc hs]
      rw [hs] at ih
      cases ps with
      | nil =>
        rw [List.intercalate_singleton] at ih ⊢
        rw [ih]
      | cons q qs =>
        rw [List.intercalate_cons_of_ne_nil (List.cons_ne_nil q qs)] at ih ⊢
        exact congrArg (c :: ·) ih

theorem upTo_of_not_mem {c : Char} {s : List Char} (h : c ∉ s) : upTo c s = s := by
  induction s with
  | nil => rfl
  | cons d r ih =>
    rw [List.mem_cons, not_or] at h
    rw [upTo, List.takeWhile_cons, if_pos (bne_iff_ne.2 (Ne.symm h.1))]
    exact congrArg (d :: ·) (ih h.2)

theorem not_mem_upTo (c : Char) (s : List Char) : c ∉ upTo c s := by
  intro h
  have hkeep : (upTo c s).all (· != c) = true := List.all_takeWhile
  simpa using List.all_eq_true.1 hkeep c h

theorem upTo_append_self {c : Char} {a : List Char} (h : c ∉ a) (b : List Char) :
    upTo c (a ++ c :: b) = a := by
  have hkeep : ∀ d ∈ a, (d != c) = true := fun d hd => bne_iff_ne.2 fun heq => h (heq ▸ hd)
  rw [upTo, List.takeWhile_append_of_pos hkeep, List.takeWhile_cons, if_neg (by simp),
    List.append_nil]

end Text
end CatalogScout
