import CatalogScout.ConfigClient
import CatalogScout.Proofs.Lists
import CatalogScout.Proofs.Text.Trim

/-!
Addresses of nodes in a file tree.  What such an address names is the path that it was written
with, as long as no segment has a character with a meaning in addresses and none is a dot or two.
-/

namespace CatalogScout

open Text

/-- The segment stands for itself in an address. -/
def Ordinary (segment : String) : Prop :=
  segment ≠ "" ∧ segment ≠ "." ∧ segment ≠ ".." ∧
    ∀ c ∈ segment.toList, c ∉ ['/', '?', '#', '\t', '\r', '\n']

instance (segment : String) : Decidable (Ordinary segment) :=
  have : Decidable (∀ c ∈ segment.toList, c ∉ ['/', '?', '#', '\t', '\r', '\n']) :=
    List.decidableBAll _ segment.toList
  inferInstanceAs (Decidable (_ ∧ _ ∧ _ ∧ _))

namespace Path

/-- The address of the file or directory at an absolute path. -/
def fileUri (segments : List String) : String := "file:///" ++ "/".intercalate segments

/-- The text of a path behind its first slash. -/
def joined (segments : List String) : List Char := ['/'].intercalate (segments.map String.toList)

theorem fileUri_toList (segments : List String) :
    (fileUri segments).toList = "file:".toList ++ '/' :: '/' :: '/' :: joined segments := by
  rw [fileUri, String.toList_append, String.toList_intercalate]
  rfl

/-! ## The parts of an address of a file -/

/-- Without tabs and line ends. -/
def unbroken (s : List Char) : List Char :=
  s.filter fun c => !(c = '\t' || c = '\r' || c = '\n')

theorem unbroken_of_not_mem {s : List Char} (h : ∀ c ∈ ['\t', '\r', '\n'], c ∉ s) :
    unbroken s = s := by
  refine List.filter_eq_self.2 fun c hc => ?_
  have htab : c ≠ '\t' := fun heq => h '\t' (by decide) (heq ▸ hc)
  have hcr : c ≠ '\r' := fun heq => h '\r' (by decide) (heq ▸ hc)
  have hlf : c ≠ '\n' := fun heq => h '\n' (by decide) (heq ▸ hc)
  simp [htab, hcr, hlf]

theorem cutScheme_file (s : List Char) :
    Uri.cutScheme ("file:".toList ++ s) = ("file".toList, s) := by
  have hcut : cutAt (· == ':') ("file:".toList ++ s) = some (['f', 'i', 'l', 'e'], s) := by
    rw [cutAt_eq_some_iff]
    exact ⟨':', rfl, rfl, by simp⟩
  rw [Uri.cutScheme, hcut]
  rfl

/-- Without an authority nothing is wrong with an address, and parameters stay in its path. -/
theorem parse_file {s path : List Char} (h : Uri.cutAuthority (unbroken s) = ([], path)) :
    Uri.parse ("file:".toList ++ s)
      = .ok ⟨"file".toList, [], upTo '?' (upTo '#' path)⟩ := by
  have hclean : Uri.cleaned ("file:".toList ++ s) = "file:".toList ++ unbroken s := rfl
  rw [Uri.parse, hclean, cutScheme_file]
  simp only [h]
  rfl

section Ordinary

variable {segments : List String}

theorem slash_not_mem (h : ∀ s ∈ segments, Ordinary s) :
    ∀ p ∈ segments.map String.toList, '/' ∉ p := by
  intro p hp hmem
  obtain ⟨s, hs, rfl⟩ := List.mem_map.1 hp
  exact (h s hs).2.2.2 '/' hmem (by decide)

theorem not_mem_joined (h : ∀ s ∈ segments, Ordinary s) {c : Char} (hslash : c ≠ '/')
    (hc : c ∈ ['/', '?', '#', '\t', '\r', '\n']) : c ∉ joined segments := by
  refine List.not_mem_intercalate hslash fun p hp hmem => ?_
  obtain ⟨s, hs, rfl⟩ := List.mem_map.1 hp
  exact (h s hs).2.2.2 c hmem hc

theorem fields_joined (h : ∀ s ∈ segments, Ordinary s) (hne : segments ≠ []) :
    fields '/' (joined segments) = segments.map String.toList :=
  fields_intercalate (by simpa using hne) (slash_not_mem h)

/-- The text does not begin with a slash, since no segment is empty. -/
theorem joined_ne_slash (h : ∀ s ∈ segments, Ordinary s) (r : List Char) :
    joined segments ≠ '/' :: r := by
  intro heq
  cases segments with
  | nil => cases heq
  | cons s rest =>
    have hfields := fields_joined h (by simp)
    rw [heq, fields, if_pos rfl, List.map_cons] at hfields
    have hs : s.toList = [] := (List.cons.inj hfields).1.symm
    exact (h s List.mem_cons_self).1 (String.toList_eq_nil_iff.1 hs)

theorem anchorage_joined (h : ∀ s ∈ segments, Ordinary s) :
    Anchorage.ofText ('/' :: joined segments) = .absolute := by
  cases hj : joined segments with
  | nil => rfl
  | cons c r =>
    have hc : c ≠ '/' := fun heq => joined_ne_slash h r (heq ▸ hj)
    unfold Anchorage.ofText
    split
    · rfl
    · next heq => exact absurd (List.cons.inj (List.cons.inj heq).2).1 hc
    · rfl
    · next hno => exact absurd rfl (hno _)

theorem segmentsOf_joined (h : ∀ s ∈ segments, Ordinary s) :
    segmentsOf ('/' :: joined segments) = segments := by
  rw [segmentsOf, fields, if_pos rfl]
  by_cases hne : segments = []
  · subst hne
    rfl
  · have hkeep : ∀ p ∈ segments.map String.toList, decide (p ≠ [] ∧ p ≠ ['.']) = true := by
      intro p hp
      obtain ⟨s, hs, rfl⟩ := List.mem_map.1 hp
      refine decide_eq_true ⟨fun heq => (h s hs).1 (String.toList_eq_nil_iff.1 heq), fun heq => ?_⟩
      exact (h s hs).2.1 (String.toList_inj.1 heq)
    rw [fields_joined h hne, List.filter_cons_of_neg (by simp), List.filter_eq_self.2 hkeep,
      List.map_map]
    simp

theorem ofText_joined (h : ∀ s ∈ segments, Ordinary s) :
    Path.ofText ('/' :: joined segments) = ⟨.absolute, segments⟩ := by
  rw [Path.ofText, anchorage_joined h, segmentsOf_joined h]

theorem parse_fileUri (h : ∀ s ∈ segments, Ordinary s) :
    Uri.parse (fileUri segments).toList = .ok ⟨"file".toList, [], '/' :: joined segments⟩ := by
  have hnot : ∀ c ∈ ['?', '#', '\t', '\r', '\n'], c ∉ '/' :: joined segments := by
    intro c hc
    have hslash : c ≠ '/' := by
      rintro rfl
      exact absurd hc (by decide)
    rw [List.mem_cons, not_or]
    exact ⟨hslash, not_mem_joined h hslash (List.mem_cons_of_mem '/' hc)⟩
  have hclean : unbroken ('/' :: joined segments) = '/' :: joined segments :=
    unbroken_of_not_mem fun c hc => hnot c (List.mem_of_mem_drop (i := 2) hc)
  have hcut : Uri.cutAuthority (unbroken ('/' :: '/' :: '/' :: joined segments))
      = ([], '/' :: joined segments) := by
    show Uri.cutAuthority ('/' :: '/' :: unbroken ('/' :: joined segments)) = _
    rw [hclean]
    rfl
  rw [fileUri_toList, parse_file hcut, upTo_of_not_mem (hnot '#' (by decide)),
    upTo_of_not_mem (hnot '?' (by decide))]

/-- The address of a path names it. -/
theorem target_fileUri (h : ∀ s ∈ segments, Ordinary s) :
    ConfigClient.target (fileUri segments) = .ok ("file", ⟨.absolute, segments⟩) := by
  rw [ConfigClient.target, parse_fileUri h]
  show Except.ok (_, Path.ofText ('/' :: joined segments)) = _
  rw [ofText_joined h]
  rfl

end Ordinary

end Path
end CatalogScout
