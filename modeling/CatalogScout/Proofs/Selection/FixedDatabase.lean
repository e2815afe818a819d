import CatalogScout.Job
import CatalogScout.Proofs.Selection.Grammar

/-!
Jobs with a fixed database.

The database of a job and its table pattern are read as one selection, with a dot between them.
The dot binds the database to the pattern up to its first comma.  What stands behind the comma is
read as tokens with databases of their own, and a blank database leaves the pattern to be read as
the whole selection.  So the database confines the policy if it is not blank and no token stands
behind a comma of the pattern.
-/

namespace CatalogScout

open Text

namespace Rule

variable {ignoreCase : Bool} {r : Rule} {db pattern : List Char} {rules : List Rule}

theorem Parted.database_eq [CharacterNames] {parts : List (List Char)}
    (h : Parted ignoreCase r (db :: parts)) : readPattern ignoreCase db = .ok r.database := by
  cases h with
  | database hdb => exact hdb
  | tables hdb => exact hdb

/-! ## A database and a pattern, put together -/

/-- The first token is what stands in front of the first comma. -/
theorem pieces_glued (hcomma : ',' ∉ db) (pattern : List Char) :
    pieces ',' (db ++ '.' :: pattern)
      = trim (db ++ '.' :: upTo ',' pattern) :: pieces ',' (behindFirst ',' pattern) := by
  have hkeep : ∀ c ∈ db ++ ['.'], (c != ',') = true := by
    intro c hc
    rcases List.mem_append.1 hc with hc | hc
    · exact bne_iff_ne.2 fun heq => hcomma (heq ▸ hc)
    · obtain rfl := List.mem_singleton.1 hc
      decide
  have hglued : db ++ '.' :: pattern = db ++ ['.'] ++ pattern :=
    (List.append_assoc db ['.'] pattern).symm
  have hfront : upTo ',' (db ++ '.' :: pattern) = db ++ '.' :: upTo ',' pattern := by
    rw [hglued, upTo, List.takeWhile_append_of_pos hkeep, List.append_assoc]
    rfl
  have hbehind : behindFirst ',' (db ++ '.' :: pattern) = behindFirst ',' pattern := by
    rw [hglued, behindFirst, List.dropWhile_append_of_pos hkeep]
    rfl
  have hdot : isBlankText (db ++ '.' :: upTo ',' pattern) = false := by
    rw [isBlankText, List.all_append, List.all_cons]
    have hblank : isBlank '.' = false := by decide
    rw [hblank, Bool.false_and, Bool.and_false]
  have hnone := not_mem_upTo ',' (db ++ '.' :: pattern)
  rw [hfront] at hnone
  rw [pieces_eq_append, hfront, hbehind, pieces_of_not_mem hnone hdot, List.singleton_append]

theorem readAll_glued [CharacterNames] (hcomma : ',' ∉ db)
    (h : readAll ignoreCase (db ++ '.' :: pattern) = .ok rules) :
    ∃ first others, rules = first :: others ∧
      Parted ignoreCase first (pieces '.' db ++ pieces '.' (upTo ',' pattern)) ∧
      readAll ignoreCase (behindFirst ',' pattern) = .ok others := by
  rw [readAll, List.mapM_eq_ok_iff, pieces_glued hcomma, List.forall₂_cons_left_iff] at h
  obtain ⟨first, others, hfirst, hothers, rfl⟩ := h
  rw [ofToken_eq_ok_iff, pieces_trim (by decide), pieces_append] at hfirst
  exact ⟨first, others, rfl, hfirst, List.mapM_eq_ok_iff.2 hothers⟩

/-- The database is that of the first rule. -/
theorem readAll_of_database [CharacterNames] (hcomma : ',' ∉ db) (hdot : '.' ∉ db)
    (hdb : isBlankText db = false) (h : readAll ignoreCase (db ++ '.' :: pattern) = .ok rules) :
    ∃ first others, rules = first :: others ∧
      readPattern ignoreCase (trim db) = .ok first.database ∧
      readAll ignoreCase (behindFirst ',' pattern) = .ok others := by
  obtain ⟨first, others, hrules, hfirst, hothers⟩ := readAll_glued hcomma h
  rw [pieces_of_not_mem hdot hdb, List.singleton_append] at hfirst
  exact ⟨first, others, hrules, hfirst.database_eq, hothers⟩

/-- Without a database the pattern is read on its own. -/
theorem readAll_of_blank [CharacterNames] (hcomma : ',' ∉ db) (hdb : isBlankText db = true)
    (h : readAll ignoreCase (db ++ '.' :: pattern) = .ok rules) :
    readAll ignoreCase pattern = .ok rules := by
  obtain ⟨first, others, rfl, hfirst, hothers⟩ := readAll_glued hcomma h
  rw [pieces_of_blank hdb, List.nil_append] at hfirst
  have hfront : isBlankText (upTo ',' pattern) = false := by
    rw [Bool.eq_false_iff]
    intro hblank
    rw [pieces_of_blank hblank] at hfirst
    cases hfirst
  rw [readAll, List.mapM_eq_ok_iff] at hothers ⊢
  rw [pieces_eq_append, pieces_of_not_mem (not_mem_upTo ',' pattern) hfront, List.singleton_append]
  refine .cons ?_ hothers
  rw [ofToken_eq_ok_iff, pieces_trim (by decide)]
  exact hfirst

theorem readAll_of_no_token [CharacterNames] (h : ∀ c ∈ pattern, c = ',' ∨ isBlank c = true)
    (hread : readAll ignoreCase pattern = .ok rules) : rules = [] := by
  rw [readAll, (pieces_eq_nil_iff ',' pattern).2 h] at hread
  exact (Except.ok.inj hread).symm

end Rule

namespace Job

open Rule

variable {s : Settings} {db : String} {p : Policy}

/-- The table pattern of a job with a fixed database. -/
def tablePattern (s : Settings) : List Char := ((nonEmpty? s tablePatternKey).getD "*").toList

theorem databaseSelection_toList (s : Settings) (db : String) :
    (databaseSelection s db).toList = db.toList ++ '.' :: tablePattern s := by
  rw [databaseSelection, String.toList_append, String.toList_append, List.append_assoc]
  rfl

theorem rules_of_policy [CharacterNames] (hdb : s.get? databaseKey = some db)
    (h : policy s = .ok p) :
    readAll true (db.toList ++ '.' :: tablePattern s) = .ok p.included ∧ p.excluded = [] := by
  simp only [policy, hdb] at h
  obtain ⟨hincluded, hexcluded⟩ := Policy.readAll_of_ofTexts h
  rw [databaseSelection_toList] at hincluded
  exact ⟨hincluded, (Except.ok.inj hexcluded).symm⟩

/-- What the policy of a job with a fixed database accepts, for a database without a comma or a dot:

* if it is blank, what the table pattern says when it is read as a whitelist;
* else databases that match it, and what the tokens behind the first comma of the table pattern say.

So if there are no such tokens, nothing but what matches the database. -/
theorem fixed_database [CharacterNames] (hdb : s.get? databaseKey = some db)
    (hcomma : ',' ∉ db.toList) (hdot : '.' ∉ db.toList) (h : policy s = .ok p) :
    (isBlankString db = true → readAll true (tablePattern s) = .ok p.included ∧ p.excluded = []) ∧
    (isBlankString db = false → ∃ own others,
      readPattern true (trim db.toList) = .ok own ∧
      readAll true (behindFirst ',' (tablePattern s)) = .ok others ∧
      (∀ name, p.acceptsDatabase name = true ↔
        own.matchesName name = true ∨ ∃ r ∈ others, r.coversDatabase name = true) ∧
      (∀ name table, p.accepts name table = true →
        own.matchesName name = true ∨ ∃ r ∈ others, r.covers name table = true) ∧
      ((∀ c ∈ behindFirst ',' (tablePattern s), c = ',' ∨ isBlank c = true) →
        (∀ name, p.acceptsDatabase name = true → own.matchesName name = true) ∧
        ∀ name table, p.accepts name table = true → own.matchesName name = true)) := by
  obtain ⟨hincluded, hexcluded⟩ := rules_of_policy hdb h
  refine ⟨fun hblank => ⟨readAll_of_blank hcomma hblank hincluded, hexcluded⟩, fun hblank => ?_⟩
  obtain ⟨first, others, hrules, hown, hothers⟩ :=
    readAll_of_database hcomma hdot hblank hincluded
  have hdatabase : ∀ name, p.acceptsDatabase name = true ↔
      first.database.matchesName name = true ∨ ∃ r ∈ others, r.coversDatabase name = true := by
    intro name
    rw [Policy.acceptsDatabase_iff, hrules, hexcluded]
    simp [coversDatabase]
  have htable : ∀ name table, p.accepts name table = true →
      first.database.matchesName name = true ∨ ∃ r ∈ others, r.covers name table = true := by
    intro name table haccepts
    rw [Policy.accepts_iff, hrules] at haccepts
    rcases haccepts.1 with hnone | ⟨r, hr, hcovers⟩
    · cases hnone
    · rcases List.mem_cons.1 hr with rfl | hr
      · exact .inl (Bool.and_eq_true_iff.1 hcovers).1
      · exact .inr ⟨r, hr, hcovers⟩
  refine ⟨first.database, others, hown, hothers, hdatabase, htable, fun hnone => ?_⟩
  obtain rfl := readAll_of_no_token hnone hothers
  refine ⟨fun name haccepts => ?_, fun name table haccepts => ?_⟩
  · simpa using (hdatabase name).1 haccepts
  · simpa using htable name table haccepts

/-! ### Cases -/

def jobFor (db pattern : String) : Settings :=
  .ofList [(databaseKey, db), (tablePatternKey, pattern)]

/-- A comma in the table pattern brings in another database, and so does a blank database. -/
theorem pattern_brings_database :
    (policy (jobFor "db1" "a,db2")).toOption.map
        (fun p => (p.acceptsDatabase "db2", p.accepts "db2" "x")) = some (true, true) ∧
      (readPattern true (trim "db1".toList)).toOption.map (·.matchesName "db2") = some false ∧
      (policy (jobFor " " "t")).toOption.map
        (fun p => (p.acceptsDatabase "t", p.accepts "t" "x")) = some (true, true) ∧
      (readPattern true (trim " ".toList)).toOption.map (·.matchesName "t") = some false := by
  decide +kernel

theorem fixed_database_of_list :
    ∃ p, policy (jobFor "db1" "a|b") = .ok p ∧ p.acceptsDatabase "DB1" = true ∧
      p.acceptsDatabase "db2" = false := by
  have hmatches : (readPattern true (trim "db1".toList)).toOption.map
      (fun own => (own.matchesName "DB1", own.matchesName "db2")) = some (true, false) := by
    decide +kernel
  have hready : (policy (jobFor "db1" "a|b")).toOption.isSome = true := by decide +kernel
  cases h : policy (jobFor "db1" "a|b") with
  | error failure =>
    rw [h] at hready
    cases hready
  | ok p =>
    obtain ⟨own, others, hown, -, hdatabase, -, hconfined⟩ :=
      (fixed_database rfl (by decide) (by decide) h).2 (by decide)
    rw [hown] at hmatches
    obtain ⟨hsame, hother⟩ := Prod.mk.inj (Option.some.inj hmatches)
    refine ⟨p, rfl, (hdatabase "DB1").2 (.inl hsame), Bool.eq_false_iff.2 fun haccepts => ?_⟩
    have hnone : behindFirst ',' (tablePattern (jobFor "db1" "a|b")) = [] := by decide +kernel
    have hbehind : ∀ c ∈ behindFirst ',' (tablePattern (jobFor "db1" "a|b")),
        c = ',' ∨ isBlank c = true := by
      rw [hnone]
      exact List.forall_mem_nil _
    have hmatch := (hconfined hbehind).1 "db2" haccepts
    rw [hother] at hmatch
    cases hmatch

end Job
end CatalogScout
