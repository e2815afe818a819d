import CatalogScout.Proofs.Text.Trim
import CatalogScout.Settings.Properties

/-!
The entry of a line.

A line is trimmed before it is looked at, and its key and its value are trimmed again.  Trimming the
line matters only for what it begins with: the parts of a line are the same with blanks around it.
-/

namespace CatalogScout
namespace Settings

open Text

theorem isSeparator_iff {c : Char} : isSeparator c = true ↔ c = '=' ∨ c = ':' := by
  simp [isSeparator]

theorem isSeparator_of_isBlank {c : Char} (h : isBlank c = true) : isSeparator c = false := by
  rw [Bool.eq_false_iff, Ne, isSeparator_iff]
  rintro (rfl | rfl)
  · exact absurd h (by decide)
  · exact absurd h (by decide)

/-- Blanks around a line belong to neither its key nor its value. -/
theorem cutEntry_trim (line : List Char) : cutEntry (trim line) = cutEntry line := by
  obtain ⟨front, back, hline, hfront, hback⟩ := eq_padded_trim line
  have hleft : ∀ c s, isBlank c = true → cutEntry (c :: s) = cutEntry s := by
    intro c s hc
    rw [cutEntry, cutEntry, cutAt_cons (isSeparator_of_isBlank hc)]
    cases cutAt isSeparator s with
    | none => exact congrArg (·, []) (trim_cons_blank hc s)
    | some parts => exact congrArg (·, trim parts.2) (trim_cons_blank hc parts.1)
  have hright : ∀ c s, isBlank c = true → cutEntry (s ++ [c]) = cutEntry s := by
    intro c s hc
    rw [cutEntry, cutEntry, cutAt_concat (isSeparator_of_isBlank hc)]
    cases cutAt isSeparator s with
    | none => exact congrArg (·, []) (trim_concat_blank hc s)
    | some parts => exact congrArg (trim parts.1, ·) (trim_concat_blank hc parts.2)
  have hsame := blank_ends_induction hleft hright hfront hback (trim line)
  rw [← hline] at hsame
  exact hsame.symm

/-- The line begins, behind its blanks, with a number sign or an exclamation mark. -/
def IsComment (line : List Char) : Prop := ∃ c ∈ (trim line).head?, c = '#' ∨ c = '!'

instance (line : List Char) : Decidable (IsComment line) :=
  Option.decidableExistsMem (trim line).head?

theorem isSkipped_iff {line : List Char} (hblank : isBlankText line = false) :
    isSkipped (trim line) = true ↔ IsComment line := by
  rw [Bool.eq_false_iff, Ne, ← trim_eq_nil_iff] at hblank
  cases htrim : trim line with
  | nil => exact absurd htrim hblank
  | cons c r => simp [isSkipped, IsComment, htrim]

theorem entryOfLine?_of_blank {line : List Char} (h : isBlankText line = true) :
    entryOfLine? line = none := by
  rw [entryOfLine?, (trim_eq_nil_iff line).2 h]
  rfl

theorem isBlankText_of_isComment {line : List Char} (h : IsComment line) :
    isBlankText line = false := by
  rw [Bool.eq_false_iff, Ne, ← trim_eq_nil_iff]
  intro hnil
  obtain ⟨c, hc, -⟩ := h
  rw [hnil] at hc
  cases hc

theorem entryOfLine?_of_comment {line : List Char} (h : IsComment line) :
    entryOfLine? line = none := by
  rw [entryOfLine?, if_pos ((isSkipped_iff (isBlankText_of_isComment h)).2 h)]

/-- The entry of any other line. -/
theorem entryOfLine?_eq {line key value : List Char} (hcomment : ¬IsComment line)
    (hcut : cutEntry line = (key, value)) (hkey : key ≠ []) :
    entryOfLine? line = some (String.ofList key, String.ofList value) := by
  have hblank : isBlankText line = false := by
    rw [Bool.eq_false_iff, Ne, ← trim_eq_nil_iff]
    intro hnil
    rw [← cutEntry_trim, hnil] at hcut
    exact hkey (Prod.mk.inj hcut).1.symm
  have hskip : ¬isSkipped (trim line) = true := mt (isSkipped_iff hblank).1 hcomment
  simp [entryOfLine?, hskip, cutEntry_trim, hcut, hkey]

/-- The key of a line has no separator in it. -/
theorem isSeparator_of_mem_key {line : List Char} {e : String × String}
    (h : entryOfLine? line = some e) {c : Char} (hc : c ∈ e.1.toList) : isSeparator c = false := by
  have hkey : ∀ s, ∀ c ∈ (cutEntry s).1, isSeparator c = false := by
    intro s c hc
    rw [cutEntry] at hc
    split at hc
    · next hcut => exact cutAt_eq_none_iff.1 hcut c ((trim_isInfix s).subset hc)
    · next key value hcut =>
      obtain ⟨-, -, -, hfront⟩ := (cutAt_eq_some_iff _ _ _ _).1 hcut
      exact hfront c ((trim_isInfix key).subset hc)
  simp only [entryOfLine?] at h
  split at h
  · cases h
  · split at h
    · cases h
    · obtain rfl := Option.some.inj h
      rw [String.toList_ofList] at hc
      exact hkey _ c hc

end Settings
end CatalogScout
