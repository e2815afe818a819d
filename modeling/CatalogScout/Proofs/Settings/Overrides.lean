import CatalogScout.Proofs.Settings.Entries
import CatalogScout.Proofs.Settings.Files

/-!
Assignments beside a file, against lines of the file.

An assignment is parted at its first equals sign, a line at its first equals sign or colon, and a
line may be a comment.  So an assignment means what it means as a line of the file, unless a colon
stands in front of its equals sign or it looks like a comment; then it never does.
-/

namespace CatalogScout
namespace Settings

open Text

/-! ## Lists of entries -/

theorem putAll_append (s : Settings) (a b : List (String × String)) :
    s.putAll (a ++ b) = (s.putAll a).putAll b :=
  List.foldl_append

theorem ofLines_append (rows more : List (List Char)) :
    ofLines (rows ++ more) = (ofLines rows).putAll (more.filterMap entryOfLine?) := by
  rw [ofLines, List.filterMap_append, ofList, putAll_append]
  rfl

theorem ofList_singleton_inj {e e' : String × String} : ofList [e] = ofList [e'] ↔ e = e' := by
  constructor
  · intro h
    have hentries : [e] = [e'] := congrArg entries h
    exact (List.cons.inj hentries).1
  · rintro rfl
    rfl

theorem ofLines_singleton_iff {line : List Char} {e : String × String} :
    ofLines [line] = ofList [e] ↔ entryOfLine? line = some e := by
  rw [ofLines, List.filterMap_cons]
  cases entryOfLine? line with
  | none =>
    refine iff_of_false (fun h => ?_) (Option.some_ne_none e).symm
    have hentries : [] = [e] := congrArg entries h
    cases hentries
  | some e' => rw [Option.some.injEq, ← ofList_singleton_inj]; rfl

/-! ## One assignment -/

/-- No colon in front of the first equals sign, and no mark of a comment. -/
structure LineLike (assignment : String) : Prop where
  noColon : ':' ∉ upTo '=' assignment.toList
  noComment : ¬IsComment assignment.toList

/-- What an assignment says is what stands around its first equals sign. -/
theorem readAssignment_eq_ok {assignment : String} {e : String × String}
    (h : readAssignment assignment = .ok e) :
    ∃ value, assignment.toList = upTo '=' assignment.toList ++ '=' :: value ∧
      trim (upTo '=' assignment.toList) ≠ [] ∧
      e = (String.ofList (trim (upTo '=' assignment.toList)), String.ofList (trim value)) := by
  unfold readAssignment at h
  split at h
  · cases h
  · next key value hcut =>
    obtain ⟨c, htext, hc, hfront⟩ := (cutAt_eq_some_iff _ _ _ _).1 hcut
    obtain rfl : c = '=' := by simpa using hc
    have hnone : '=' ∉ key := fun hmem => by simpa using hfront '=' hmem
    split at h
    · cases h
    · next hkey =>
      rw [htext, upTo_append_self hnone]
      exact ⟨value, rfl, mt (trim_eq_nil_iff key).1 hkey, (Except.ok.inj h).symm⟩

/-- An assignment is read as a line is if and only if it looks like a line. -/
theorem entryOfLine?_iff_lineLike {assignment : String} {e : String × String}
    (h : readAssignment assignment = .ok e) :
    entryOfLine? assignment.toList = some e ↔ LineLike assignment := by
  obtain ⟨value, htext, hkey, rfl⟩ := readAssignment_eq_ok h
  constructor
  · intro hline
    refine ⟨fun hcolon => ?_, fun hcomment => ?_⟩
    · have hmem : ':' ∈ (String.ofList (trim (upTo '=' assignment.toList))).toList := by
        rw [String.toList_ofList]
        exact mem_trim hcolon (by decide)
      exact absurd (isSeparator_of_mem_key hline hmem) (by decide)
    · rw [entryOfLine?_of_comment hcomment] at hline
      cases hline
  · rintro ⟨hcolon, hcomment⟩
    refine entryOfLine?_eq hcomment ?_ hkey
    have hcut : cutAt isSeparator assignment.toList
        = some (upTo '=' assignment.toList, value) := by
      refine (cutAt_eq_some_iff _ _ _ _).2 ⟨'=', htext, rfl, fun c hc => ?_⟩
      rw [Bool.eq_false_iff, Ne, isSeparator_iff]
      rintro (rfl | rfl)
      · exact not_mem_upTo '=' _ hc
      · exact hcolon hc
    rw [cutEntry, hcut]

theorem mapM_readAssignment {assignments : List String}
    (h : ∀ a ∈ assignments, (∃ e, readAssignment a = .ok e) ∧ LineLike a) :
    assignments.mapM readAssignment
      = .ok ((assignments.map String.toList).filterMap entryOfLine?) := by
  induction assignments with
  | nil => rfl
  | cons a assignments ih =>
    obtain ⟨⟨e, he⟩, hlike⟩ := h a List.mem_cons_self
    have hentry := (entryOfLine?_iff_lineLike he).2 hlike
    rw [List.mapM_cons, he, ih fun b hb => h b (List.mem_cons_of_mem a hb), List.map_cons,
      List.filterMap_cons, hentry]
    rfl

/-! ## A job's settings -/

/-- The settings of a file's lines and of assignments as lines behind them. -/
def withLines (text : List Char) (assignments : List String) : Settings :=
  ofLines (lines (unifyNewlines text) ++ assignments.map String.toList)

theorem ofJob_of_lineLike (text : List Char) {assignments : List String}
    (h : ∀ a ∈ assignments, (∃ e, readAssignment a = .ok e) ∧ LineLike a)
    (profile : Option String) :
    ofJob (some (Utf8.encode text)) assignments profile
      = match profile with
        | none => .ok (withLines text assignments)
        | some name => .ok (if name.isEmpty then withLines text assignments
            else (withLines text assignments).put profileKey name) := by
  rw [withLines, ofLines_append]
  simp only [ofJob, ofOctets_encode, mapM_readAssignment h]
  cases profile <;> rfl

/-- Assignments that look like lines mean the same as lines at the end of the file, and a profile
with a name is put over all of them.  An assignment that is accepted but does not look like a line
never means what it means as a line. -/
theorem overrides_are_lines (text : List Char) :
    (∀ assignments : List String,
      (∀ a ∈ assignments, (∃ e, readAssignment a = .ok e) ∧ LineLike a) →
        ofJob (some (Utf8.encode text)) assignments none = .ok (withLines text assignments) ∧
        ofJob (some (Utf8.encode text)) assignments (some "") = .ok (withLines text assignments) ∧
        ∀ name, name ≠ "" → ofJob (some (Utf8.encode text)) assignments (some name)
          = .ok ((withLines text assignments).put profileKey name)) ∧
    ∀ a e, readAssignment a = .ok e → (ofLines [a.toList] = ofList [e] ↔ LineLike a) := by
  refine ⟨fun assignments h => ?_, fun a e he => ?_⟩
  · refine ⟨ofJob_of_lineLike text h none, ofJob_of_lineLike text h (some ""), fun name hname => ?_⟩
    have hempty : ¬name.isEmpty = true := mt String.isEmpty_iff.1 hname
    rw [ofJob_of_lineLike text h (some name)]
    exact congrArg Except.ok (if_neg hempty)
  · rw [ofLines_singleton_iff, entryOfLine?_iff_lineLike he]

/-! ### A case -/

theorem overrides_are_lines_of_two :
    (∃ s, ofJob (some (Utf8.encode "a=1\n# b=2\n".toList)) [" a = x:y", "c="] (some "p") = .ok s ∧
      s.get? "a" = some "x:y" ∧ s.get? profileKey = some "p") ∧
      ofLines ["a:b=c".toList] ≠ ofList [("a:b", "c")] ∧
      ofLines ["#a=b".toList] ≠ ofList [("#a", "b")] := by
  obtain ⟨hmerged, hline⟩ := overrides_are_lines "a=1\n# b=2\n".toList
  refine ⟨?_, ?_, ?_⟩
  · have hfirst : LineLike " a = x:y" := ⟨by decide, by decide⟩
    have hsecond : LineLike "c=" := ⟨by decide, by decide⟩
    have hall : ∀ a ∈ [" a = x:y", "c="], (∃ e, readAssignment a = .ok e) ∧ LineLike a :=
      List.forall_mem_cons.2 ⟨⟨⟨_, rfl⟩, hfirst⟩, List.forall_mem_singleton.2 ⟨⟨_, rfl⟩, hsecond⟩⟩
    obtain ⟨-, -, hprofile⟩ := hmerged _ hall
    exact ⟨_, hprofile "p" (by decide), by decide +kernel, by decide +kernel⟩
  · have hread : readAssignment "a:b=c" = .ok ("a:b", "c") := rfl
    exact mt (hline _ _ hread).1 fun hlike => absurd hlike.noColon (by decide)
  · have hread : readAssignment "#a=b" = .ok ("#a", "b") := rfl
    exact mt (hline _ _ hread).1 fun hlike => absurd hlike.noComment (by decide)

end Settings
end CatalogScout
