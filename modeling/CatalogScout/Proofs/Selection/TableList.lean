import CatalogScout.Proofs.Selection.Grammar

/-!
Lists of tables, and the tokens that select whole databases.

A rule without patterns for tables covers every table of its databases.  A token has such a rule if
it has no list of tables or a bare star in its list.  But a list of nothing but bars and blanks
(`Hollow`) leaves no pattern either, so it says as much as a star, though no alternative stands in
it.  Any other list covers the tables that one of its alternatives matches.
-/

namespace CatalogScout

open Text

namespace Rule

variable {ignoreCase : Bool} {token db names : List Char} {r : Rule}

/-! ## Alternatives -/

/-- An alternative is a bare star. -/
def HasBareStar (names : List Char) : Prop := ∃ a ∈ fields '|' names, trim a = ['*']

/-- Nothing stands between the bars. -/
def Hollow (names : List Char) : Prop := ∀ c ∈ names, c = '|' ∨ isBlank c = true

/-- An alternative that is not blank, compiled on its own, matches the whole name. -/
def MatchesSome [CharacterNames] (ignoreCase : Bool) (names : List Char) (table : String) : Prop :=
  ∃ a ∈ fields '|' names, isBlankText a = false ∧
    ∃ p, readPattern ignoreCase (trim a) = .ok p ∧ p.matchesName table = true

theorem contains_star_iff : (pieces '|' names).contains ['*'] = true ↔ HasBareStar names := by
  rw [List.contains_iff_mem, mem_pieces_iff]
  refine exists_congr fun a => and_congr_right fun _ => and_iff_right_of_imp fun hstar => ?_
  rw [Bool.eq_false_iff, Ne, ← trim_eq_nil_iff, hstar]
  exact List.cons_ne_nil _ _

theorem listed_eq_nil_iff : listed names = [] ↔ HasBareStar names ∨ Hollow names := by
  rw [listed, ← contains_star_iff]
  split
  · next hstar => exact iff_of_true rfl (.inl hstar)
  · next hstar => rw [pieces_eq_nil_iff, or_iff_right hstar, Hollow]

theorem listed_of_no_star (h : ¬HasBareStar names) : listed names = pieces '|' names :=
  if_neg fun hstar => h (contains_star_iff.1 hstar)

theorem coversAllTables_iff (r : Rule) : r.coversAllTables = true ↔ r.tables = [] :=
  List.isEmpty_iff

/-! ## Compiled lists -/

section Compiled

variable [known : CharacterNames]

theorem Compiled.eq_nil_iff {l : List (List Char)} {ps : List Pattern}
    (h : Compiled ignoreCase l ps) : ps = [] ↔ l = [] := by
  cases h with
  | nil => exact iff_of_true rfl rfl
  | cons => exact iff_of_false (List.cons_ne_nil _ _) (List.cons_ne_nil _ _)

theorem Compiled.any_iff {l : List (List Char)} {ps : List Pattern}
    (h : Compiled ignoreCase l ps) (f : Pattern → Bool) :
    ps.any f = true ↔ ∃ text ∈ l, ∃ p, readPattern ignoreCase text = .ok p ∧ f p = true := by
  rw [List.any_eq_true]
  simp only [List.mem_iff_of_forall₂ h]
  constructor
  · rintro ⟨p, ⟨text, htext, hp⟩, hf⟩
    exact ⟨text, htext, p, hp, hf⟩
  · rintro ⟨text, htext, p, hp, hf⟩
    exact ⟨p, ⟨text, htext, hp⟩, hf⟩

/-- What a rule covers whose patterns are those of a list. -/
theorem coversTable_iff (h : Compiled ignoreCase (listed names) r.tables)
    (hstar : ¬HasBareStar names) (hhollow : ¬Hollow names) (table : String) :
    r.coversTable table = true ↔ MatchesSome ignoreCase names table := by
  have hsome : ¬r.tables = [] := by
    rw [h.eq_nil_iff, listed_eq_nil_iff, not_or]
    exact ⟨hstar, hhollow⟩
  rw [coversTable, Bool.or_eq_true, coversAllTables_iff, or_iff_right hsome, h.any_iff,
    listed_of_no_star hstar]
  constructor
  · rintro ⟨text, htext, hmatch⟩
    obtain ⟨a, ha, hblank, rfl⟩ := mem_pieces_iff.1 htext
    exact ⟨a, ha, hblank, hmatch⟩
  · rintro ⟨a, ha, hblank, hmatch⟩
    exact ⟨trim a, mem_pieces_iff.2 ⟨a, ha, hblank, rfl⟩, hmatch⟩

/-! ## Tokens with a list -/

/-- The token is a database, a dot and a list of tables, neither of them blank. -/
structure Lists (token db names : List Char) : Prop where
  eq : token = db ++ '.' :: names
  noDot : '.' ∉ db
  noMoreDots : '.' ∉ names
  database : isBlankText db = false
  tables : isBlankText names = false

theorem Lists.parted (h : Lists token db names) (hread : ofToken ignoreCase token = .ok r) :
    readPattern ignoreCase (trim db) = .ok r.database ∧
      Compiled ignoreCase (listed names) r.tables := by
  rw [ofToken_eq_ok_iff, h.eq, pieces_append, pieces_of_not_mem h.noDot h.database,
    pieces_of_not_mem h.noMoreDots h.tables, List.singleton_append] at hread
  cases hread with
  | tables hdb htables =>
    rw [listed_trim] at htables
    exact ⟨hdb, htables⟩

/-! ### On a blacklist -/

/-- Every policy with the token on its blacklist rejects the database, if it was read with the same
names of characters. -/
def Excludes (ignoreCase : Bool) (token : List Char) (name : String) : Prop :=
  ∀ p : Policy, p.names = known → p.ignoreCase = ignoreCase →
    token ∈ pieces ',' p.blacklist.toList → p.acceptsDatabase name = false

/-- The policy with nothing but the token, on its blacklist. -/
def onlyExcluding (hread : readAll ignoreCase token = .ok [r]) : Policy where
  whitelist := ""
  blacklist := String.ofList token
  ignoreCase := ignoreCase
  included := []
  excluded := [r]
  included_eq := rfl
  excluded_eq := by rw [String.toList_ofList, hread]

theorem readAll_token {selection : List Char} (htoken : token ∈ pieces ',' selection)
    (hread : ofToken ignoreCase token = .ok r) : readAll ignoreCase token = .ok [r] := by
  obtain ⟨hblank, htrim⟩ := of_mem_pieces htoken
  rw [readAll, pieces_of_not_mem (not_mem_of_mem_pieces htoken) hblank, htrim, List.mapM_eq_ok_iff]
  exact .cons hread .nil

theorem excludes_iff {selection : List Char} (htoken : token ∈ pieces ',' selection)
    (hread : ofToken ignoreCase token = .ok r) (name : String) :
    Excludes ignoreCase token name ↔ r.coversDatabase name = true ∧ r.tables = [] := by
  rw [← coversAllTables_iff]
  constructor
  · intro h
    have halone := readAll_token htoken hread
    have hself : token ∈ pieces ',' (String.ofList token).toList := by
      obtain ⟨hblank, htrim⟩ := of_mem_pieces htoken
      rw [String.toList_ofList, pieces_of_not_mem (not_mem_of_mem_pieces htoken) hblank, htrim]
      exact List.mem_singleton_self token
    have hrejects := h (onlyExcluding halone) rfl rfl hself
    rw [← Bool.not_eq_true, Policy.acceptsDatabase_iff] at hrejects
    simpa [onlyExcluding] using hrejects
  · rintro ⟨hdb, hall⟩ p rfl rfl hblacklist
    have hmem : r ∈ p.excluded := by
      let _ := p.names
      exact (mem_rules_iff p.excluded_eq).2 ⟨token, hblacklist, hread⟩
    rw [← Bool.not_eq_true, Policy.acceptsDatabase_iff]
    rintro ⟨-, hnone⟩
    rw [hnone r hmem hdb] at hall
    cases hall

/-! ## Selections -/

/-- The rule of a token selects the whole database under this condition, and else what the
alternatives of the list match. -/
structure WholeIff (ignoreCase : Bool) (token names : List Char) (r : Rule) (whole : Prop) :
    Prop where
  tables : r.tables = [] ↔ whole
  every : whole → ∀ table, r.coversTable table = true
  excludes : ∀ name, Excludes ignoreCase token name ↔ r.coversDatabase name = true ∧ whole
  others : ¬whole → ∀ table, r.coversTable table = true ↔ MatchesSome ignoreCase names table

theorem wholeIff_of_mem {selection : List Char} (htoken : token ∈ pieces ',' selection)
    (hread : ofToken ignoreCase token = .ok r) (h : Lists token db names) :
    WholeIff ignoreCase token names r (HasBareStar names ∨ Hollow names) := by
  obtain ⟨-, htables⟩ := h.parted hread
  have hwhole : r.tables = [] ↔ HasBareStar names ∨ Hollow names := by
    rw [htables.eq_nil_iff, listed_eq_nil_iff]
  refine ⟨hwhole, fun hall table => ?_, fun name => ?_, fun hnot => ?_⟩
  · rw [coversTable, (coversAllTables_iff r).2 (hwhole.2 hall), Bool.true_or]
  · rw [excludes_iff htoken hread, hwhole]
  · rw [not_or] at hnot
    exact coversTable_iff htables hnot.1 hnot.2

/-- A token with a list of tables selects whole databases if and only if a bare star is in the list
or nothing but bars and blanks is: then the list stands for every table, and no policy with the
token on its blacklist accepts a database that the token covers.  With any other list the token
covers the tables that one of the alternatives matches on its own.

So if something stands between the bars, only a bare star selects whole databases. -/
theorem whole_database_iff {selection : String} {rules : List Rule}
    (h : readAll ignoreCase selection.toList = .ok rules) :
    List.Forall₂ (fun token r => ∀ db names, Lists token db names →
        readPattern ignoreCase (trim db) = .ok r.database ∧
        WholeIff ignoreCase token names r (HasBareStar names ∨ Hollow names) ∧
        (¬Hollow names → WholeIff ignoreCase token names r (HasBareStar names)))
      (pieces ',' selection.toList) rules := by
  have hread := (List.forall₂_and_left _ _).2 ⟨fun token htoken => htoken, List.mapM_eq_ok_iff.1 h⟩
  refine hread.imp fun token r ⟨htoken, hr⟩ db names hlists => ?_
  have hwhole := wholeIff_of_mem htoken hr hlists
  refine ⟨(hlists.parted hr).1, hwhole, fun hsome => ?_⟩
  rw [or_iff_left hsome] at hwhole
  exact hwhole

end Compiled

/-! ### Cases -/

/-- A list of one bar selects the whole database, and covers a table that no alternative matches. -/
theorem bar_selects_whole_database :
    pieces ',' "a.|".toList = ["a.|".toList] ∧ Lists "a.|".toList ['a'] ['|'] ∧
      readAll true "a.|".toList = .ok [⟨firstGlob.pattern true, []⟩] ∧
      ¬HasBareStar ['|'] ∧ ¬MatchesSome true ['|'] "x" ∧
      ¬WholeIff true "a.|".toList ['|'] ⟨firstGlob.pattern true, []⟩ (HasBareStar ['|']) := by
  have hstar : ¬HasBareStar ['|'] := by
    rintro ⟨a, ha, hstar⟩
    have hblank : ∀ a ∈ fields '|' ['|'], trim a ≠ ['*'] := by decide
    exact hblank a ha hstar
  have hnone : ¬MatchesSome true ['|'] "x" := by
    rintro ⟨a, ha, hblank, -⟩
    have hall : ∀ a ∈ fields '|' ['|'], isBlankText a = true := by decide
    rw [hall a ha] at hblank
    cases hblank
  refine ⟨rfl, ⟨rfl, by decide, by decide, by decide, by decide⟩, ?_, hstar, hnone, fun h => ?_⟩
  · refine List.mapM_eq_ok_iff.2 (.cons ?_ .nil)
    exact ofToken_eq_ok_iff.2 (.tables (firstGlob.readPattern_eq true) .nil)
  · exact hstar (h.tables.1 rfl)

theorem whole_database_iff_of_two :
    ∃ rules, readAll true "a.b| *,a.b|".toList = .ok rules ∧
      rules.map (fun r => r.tables.isEmpty) = [true, false] := by
  have hdb : readPattern true ['a'] = .ok (firstGlob.pattern true) := firstGlob.readPattern_eq true
  have hread : readAll true "a.b| *,a.b|".toList
      = .ok [⟨firstGlob.pattern true, []⟩,
          ⟨firstGlob.pattern true, [secondGlob.pattern true]⟩] := by
    refine List.mapM_eq_ok_iff.2 (.cons ?_ (.cons ?_ .nil))
    · exact ofToken_eq_ok_iff.2 (.tables hdb .nil)
    · exact ofToken_eq_ok_iff.2 (.tables hdb (.cons (secondGlob.readPattern_eq true) .nil))
  have hstarred : Lists "a.b| *".toList ['a'] "b| *".toList :=
    ⟨rfl, by decide, by decide, by decide, by decide⟩
  have hplain : Lists "a.b|".toList ['a'] "b|".toList :=
    ⟨rfl, by decide, by decide, by decide, by decide⟩
  have hstar : HasBareStar "b| *".toList := ⟨" *".toList, by decide, by decide⟩
  have hnoStar : ¬HasBareStar "b|".toList := by
    rintro ⟨a, ha, hstar⟩
    have hplain : ∀ a ∈ fields '|' "b|".toList, trim a ≠ ['*'] := by decide
    exact hplain a ha hstar
  have hsome : ¬Hollow "b|".toList := fun h => absurd (h 'b' List.mem_cons_self) (by decide)
  cases whole_database_iff hread with
  | cons hfirst hrest =>
    cases hrest with
    | cons hsecond _ =>
      have hempty := (hfirst _ _ hstarred).2.1.tables.2 (.inl hstar)
      have hfull := mt ((hsecond _ _ hplain).2.2 hsome).tables.1 hnoStar
      refine ⟨_, hread, ?_⟩
      rw [List.map_cons, List.map_singleton, hempty, List.isEmpty_eq_false_iff.2 hfull]
      rfl

end Rule
end CatalogScout
