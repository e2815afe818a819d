import CatalogScout.Proofs.Selection.Glob
import CatalogScout.Proofs.Selection.Refusal

/-!
The grammar of selections, against what is accepted of them.

By the grammar a token says a rule if it has at most one dot, a database in front of it, and texts
that can be compiled (`Says`).  Reading drops blank parts of a token before it counts the parts, so
dots with nothing between them go unnoticed (`Misdotted`), and the token is read as if they were
not there (`dense`).  A selection without such tokens is read by the grammar, and refused with a bad
value unless a count in it is no machine number.
-/

namespace CatalogScout

open Text

namespace Text

/-! ## The first separator -/

/-- The text behind the first of a character, if there is one. -/
def behindFirst (c : Char) (s : List Char) : List Char := (s.dropWhile (· != c)).tail

theorem eq_upTo_or (c : Char) (s : List Char) :
    s = upTo c s ++ c :: behindFirst c s ∨ s = upTo c s ∧ behindFirst c s = [] := by
  induction s with
  | nil => exact .inr ⟨rfl, rfl⟩
  | cons d s ih =>
    by_cases hd : d = c
    · subst hd
      left
      simp [upTo, behindFirst]
    · have hkeep : (d != c) = true := bne_iff_ne.2 hd
      have hupTo : upTo c (d :: s) = d :: upTo c s := by
        rw [upTo, List.takeWhile_cons, if_pos hkeep]
        rfl
      have hbehind : behindFirst c (d :: s) = behindFirst c s := by
        rw [behindFirst, List.dropWhile_cons, if_pos hkeep]
        rfl
      rw [hupTo, hbehind, List.cons_append, List.cons.injEq, List.cons.injEq]
      exact ih.imp (fun h => ⟨rfl, h⟩) fun h => ⟨⟨rfl, h.1⟩, h.2⟩

theorem fields_append (sep : Char) (a b : List Char) :
    fields sep (a ++ sep :: b) = fields sep a ++ fields sep b := by
  induction a with
  | nil => simp [fields]
  | cons c a ih =>
    by_cases hc : c = sep
    · rw [List.cons_append, fields, if_pos hc, ih, fields, if_pos hc, List.cons_append]
    · obtain ⟨p, ps, hp, -⟩ := fields_eq_cons sep a
      rw [hp] at ih
      rw [List.cons_append, fields_cons hc ih, fields_cons hc hp]
      rfl

end Text

namespace Rule

variable {sep : Char}

/-! ## Pieces at the first separator -/

theorem pieces_append (sep : Char) (a b : List Char) :
    pieces sep (a ++ sep :: b) = pieces sep a ++ pieces sep b := by
  rw [pieces, fields_append, List.map_append, List.filter_append]
  rfl

theorem pieces_of_blank {s : List Char} (h : isBlankText s = true) : pieces sep s = [] :=
  (pieces_eq_nil_iff sep s).2 fun c hc => .inr (List.all_eq_true.1 h c hc)

theorem pieces_of_not_mem {s : List Char} (hsep : sep ∉ s) (h : isBlankText s = false) :
    pieces sep s = [trim s] := by
  have hne : trim s ≠ [] := by
    rw [Ne, trim_eq_nil_iff, h]
    exact Bool.false_ne_true
  have hkeep : (!(trim s).isEmpty) = true := by simpa using hne
  rw [pieces, fields_of_not_mem hsep, List.map_singleton, List.filter_cons, if_pos hkeep,
    List.filter_nil]

theorem pieces_eq_append (sep : Char) (s : List Char) :
    pieces sep s = pieces sep (upTo sep s) ++ pieces sep (behindFirst sep s) := by
  rcases eq_upTo_or sep s with h | ⟨h, hnone⟩
  · conv_lhs => rw [h, pieces_append]
  · rw [hnone, pieces_of_blank (s := []) rfl, List.append_nil, ← h]

theorem of_mem_pieces {s p : List Char} (h : p ∈ pieces sep s) :
    isBlankText p = false ∧ trim p = p := by
  obtain ⟨hmem, hne⟩ := List.mem_filter.1 h
  obtain ⟨q, -, rfl⟩ := List.mem_map.1 hmem
  refine ⟨?_, trim_trim q⟩
  rw [Bool.eq_false_iff, Ne, ← trim_eq_nil_iff, trim_trim]
  simpa using hne

theorem mem_pieces_iff {s p : List Char} :
    p ∈ pieces sep s ↔ ∃ a ∈ fields sep s, isBlankText a = false ∧ trim a = p := by
  simp only [pieces, List.mem_filter, List.mem_map]
  constructor
  · rintro ⟨⟨a, ha, rfl⟩, hne⟩
    refine ⟨a, ha, ?_, rfl⟩
    rw [Bool.eq_false_iff, Ne, ← trim_eq_nil_iff]
    simpa using hne
  · rintro ⟨a, ha, hblank, rfl⟩
    refine ⟨⟨a, ha, rfl⟩, ?_⟩
    rw [Bool.eq_false_iff, Ne, ← trim_eq_nil_iff] at hblank
    simpa using hblank

/-- Pieces that are joined again are the pieces of what they are joined to. -/
theorem pieces_joined (sep : Char) (s : List Char) :
    pieces sep ([sep].intercalate (pieces sep s)) = pieces sep s := by
  have hkeep : (pieces sep s).filter (fun part => !isBlankText part) = pieces sep s :=
    List.filter_eq_self.2 fun p hp => by rw [(of_mem_pieces hp).1]; rfl
  have htrim : (pieces sep s).map trim = pieces sep s :=
    (List.map_congr_left fun p hp => (of_mem_pieces hp).2).trans (List.map_id _)
  rw [pieces_intercalate fun p hp => not_mem_of_mem_pieces hp, hkeep, htrim]

/-! ## What reading accepts -/

variable {ignoreCase : Bool} {token names : List Char} {r : Rule} {tables : List Pattern}

/-- The names of tables in a token's list.  A bare star stands for the list without names, which is
that of all tables. -/
def listed (names : List Char) : List (List Char) :=
  if (pieces '|' names).contains ['*'] then [] else pieces '|' names

theorem listed_trim (names : List Char) : listed (trim names) = listed names := by
  rw [listed, listed, pieces_trim (by decide)]

theorem listed_of_blank (h : isBlankText names = true) : listed names = [] := by
  rw [listed, pieces_of_blank h]
  rfl

section Parts

variable [CharacterNames]

/-- The patterns are those of the texts, in order. -/
def Compiled (ignoreCase : Bool) : List (List Char) → List Pattern → Prop :=
  List.Forall₂ fun text p => readPattern ignoreCase text = .ok p

theorem readTables_eq_ok_iff :
    readTables ignoreCase names = .ok tables ↔ Compiled ignoreCase (listed names) tables := by
  rw [readTables, listed, Compiled]
  split
  · rw [List.forall₂_nil_left_iff]
    exact Except.pure_eq_ok_iff
  · exact List.mapM_eq_ok_iff

/-- What a token is read as, told by its parts. -/
inductive Parted (ignoreCase : Bool) (r : Rule) : List (List Char) → Prop where
  | database {db : List Char} (hdb : readPattern ignoreCase db = .ok r.database)
      (hall : r.tables = []) : Parted ignoreCase r [db]
  | tables {db names : List Char} (hdb : readPattern ignoreCase db = .ok r.database)
      (htables : Compiled ignoreCase (listed names) r.tables) : Parted ignoreCase r [db, names]

theorem Parted.length_le {parts : List (List Char)} (h : Parted ignoreCase r parts) :
    parts.length ≤ 2 := by
  cases h with
  | database => exact Nat.le_succ 1
  | tables => exact Nat.le_refl 2

theorem ofToken_eq_ok_iff :
    ofToken ignoreCase token = .ok r ↔ Parted ignoreCase r (pieces '.' token) := by
  obtain ⟨database, tables⟩ := r
  rw [ofToken]
  split
  · next hparts =>
    rw [hparts]
    constructor
    · intro h
      cases h
    · intro h
      cases h
  · next db hparts =>
    rw [hparts, Except.bind_eq_ok_iff]
    constructor
    · rintro ⟨database', hdb, h⟩
      obtain ⟨rfl, rfl⟩ := Rule.mk.inj (Except.pure_eq_ok_iff.1 h)
      exact .database hdb rfl
    · rintro (⟨hdb, rfl⟩)
      exact ⟨database, hdb, rfl⟩
  · next db names hparts =>
    rw [hparts, Except.bind_eq_ok_iff]
    simp only [Except.bind_eq_ok_iff, readTables_eq_ok_iff, Except.pure_eq_ok_iff]
    constructor
    · rintro ⟨database', hdb, tables', htables, h⟩
      obtain ⟨rfl, rfl⟩ := Rule.mk.inj h
      exact .tables hdb htables
    · rintro (_ | ⟨hdb, htables⟩)
      exact ⟨database, hdb, tables, htables, rfl⟩
  · next hnone hone htwo =>
    constructor
    · intro h
      cases h
    · intro h
      cases hparts : pieces '.' token with
      | nil => exact absurd hparts hnone
      | cons db parts =>
        rw [hparts] at h
        cases h with
        | database => exact absurd hparts (hone db)
        | tables => exact absurd hparts (htwo db _)

end Parts

/-! ## Tokens as they are written -/

/-- At most one dot, and a database in front of it. -/
structure WellDotted (token : List Char) : Prop where
  dots : token.count '.' ≤ 1
  database : isBlankText (upTo '.' token) = false

theorem WellDotted.dot_not_mem (h : WellDotted token) : '.' ∉ behindFirst '.' token := by
  rcases eq_upTo_or '.' token with heq | ⟨-, hnone⟩
  · have hdots := h.dots
    rw [heq, List.count_append, List.count_cons_self] at hdots
    exact List.count_eq_zero.1 (by omega)
  · rw [hnone]
    exact List.not_mem_nil

theorem WellDotted.pieces_eq (h : WellDotted token) :
    pieces '.' token = trim (upTo '.' token) :: pieces '.' (behindFirst '.' token) := by
  rw [pieces_eq_append, pieces_of_not_mem (not_mem_upTo '.' token) h.database,
    List.singleton_append]

/-- The texts of a token's patterns. -/
def texts (token : List Char) : List (List Char) :=
  trim (upTo '.' token) :: listed (behindFirst '.' token)

section Says

variable [CharacterNames]

/-- The token says the rule: the database in front of the dot and the tables listed behind it. -/
structure Says (ignoreCase : Bool) (token : List Char) (r : Rule) : Prop
    extends WellDotted token where
  compiled : Compiled ignoreCase (texts token) (r.database :: r.tables)

theorem exists_says_iff :
    (∃ r, Says ignoreCase token r) ↔
      WellDotted token ∧ ∀ text ∈ texts token, ∃ p, readPattern ignoreCase text = .ok p := by
  rw [← List.exists_forall₂_iff]
  constructor
  · rintro ⟨r, hdotted, hcompiled⟩
    exact ⟨hdotted, _, hcompiled⟩
  · rintro ⟨hdotted, patterns, hcompiled⟩
    cases hcompiled with
    | @cons _ database _ tables hdatabase htables =>
      exact ⟨⟨database, tables⟩, hdotted, .cons hdatabase htables⟩

theorem WellDotted.parted_iff (h : WellDotted token) :
    Parted ignoreCase r (pieces '.' token) ↔ Says ignoreCase token r := by
  have hsays : Says ignoreCase token r ↔
      readPattern ignoreCase (trim (upTo '.' token)) = .ok r.database ∧
        Compiled ignoreCase (listed (behindFirst '.' token)) r.tables :=
    ⟨fun hs => List.forall₂_cons.1 hs.compiled, fun hs => ⟨h, List.forall₂_cons.2 hs⟩⟩
  rw [h.pieces_eq, hsays]
  by_cases hblank : isBlankText (behindFirst '.' token) = true
  · -- Without a list of tables the rule has none.
    rw [pieces_of_blank hblank, listed_of_blank hblank, Compiled, List.forall₂_nil_left_iff]
    constructor
    · rintro (⟨hdb, hall⟩)
      exact ⟨hdb, hall⟩
    · rintro ⟨hdb, hall⟩
      exact .database hdb hall
  · rw [pieces_of_not_mem h.dot_not_mem (Bool.eq_false_iff.2 hblank), ← listed_trim]
    constructor
    · rintro (_ | ⟨hdb, htables⟩)
      exact ⟨hdb, htables⟩
    · rintro ⟨hdb, htables⟩
      exact .tables hdb htables

/-- Dots that are not well placed, but are not noticed, because with the blank parts dropped no more
than two parts are left. -/
def Misdotted (token : List Char) : Prop :=
  ¬WellDotted token ∧ (pieces '.' token).length ≤ 2

theorem ofToken_iff_says (h : ¬Misdotted token) :
    ofToken ignoreCase token = .ok r ↔ Says ignoreCase token r := by
  rw [ofToken_eq_ok_iff]
  by_cases hdotted : WellDotted token
  · exact hdotted.parted_iff
  · have hcrowded : ¬(pieces '.' token).length ≤ 2 := fun hle => h ⟨hdotted, hle⟩
    constructor
    · intro hparted
      exact absurd hparted.length_le hcrowded
    · intro hsays
      exact absurd hsays.toWellDotted hdotted

/-! ### Tokens as they are read -/

/-- The token without its blank parts. -/
def dense (token : List Char) : List Char := ['.'].intercalate (pieces '.' token)

theorem wellDotted_joined {parts : List (List Char)} (h : Parted ignoreCase r parts)
    (hparts : ∀ p ∈ parts, '.' ∉ p ∧ isBlankText p = false) :
    WellDotted (['.'].intercalate parts) := by
  cases h with
  | @database db =>
    obtain ⟨hdot, hblank⟩ := hparts db List.mem_cons_self
    rw [List.intercalate_singleton]
    refine ⟨?_, ?_⟩
    · rw [List.count_eq_zero.2 hdot]
      exact Nat.zero_le 1
    · rw [upTo_of_not_mem hdot]
      exact hblank
  | @tables db names =>
    obtain ⟨hdot, hblank⟩ := hparts db List.mem_cons_self
    obtain ⟨hdots, -⟩ := hparts names (List.mem_cons_of_mem db List.mem_cons_self)
    have hjoined : ['.'].intercalate [db, names] = db ++ '.' :: names := by
      simp [List.intercalate]
    rw [hjoined]
    refine ⟨?_, ?_⟩
    · rw [List.count_append, List.count_cons_self, List.count_eq_zero.2 hdot,
        List.count_eq_zero.2 hdots]
    · rw [upTo_append_self hdot]
      exact hblank

theorem ofToken_iff_says_dense :
    ofToken ignoreCase token = .ok r ↔ Says ignoreCase (dense token) r := by
  rw [ofToken_eq_ok_iff]
  constructor
  · intro h
    have hdotted : WellDotted (dense token) :=
      wellDotted_joined h fun p hp => ⟨not_mem_of_mem_pieces hp, (of_mem_pieces hp).1⟩
    refine hdotted.parted_iff.1 ?_
    rw [dense, pieces_joined]
    exact h
  · intro h
    have hparted := h.toWellDotted.parted_iff.2 h
    rw [dense, pieces_joined] at hparted
    exact hparted

/-! ## Selections -/

/-- The rules of a selection are those that its tokens are read as. -/
theorem mem_rules_iff {selection : List Char} {rules : List Rule}
    (h : readAll ignoreCase selection = .ok rules) :
    r ∈ rules ↔ ∃ token ∈ pieces ',' selection, ofToken ignoreCase token = .ok r :=
  List.mem_iff_of_forall₂ (List.mapM_eq_ok_iff.1 h)

end Says

/-- A count in braces that is no machine number. -/
def HasLargeCount (token : List Char) : Prop :=
  ∃ digits, Pattern.TooLarge digits ∧ '\x7b' :: digits ++ ['\x7d'] <:+: token

theorem isBadValue_of_refused {failure : Failure} (h : Refused token failure)
    (hdots : ¬Misdotted token) (hcount : ¬HasLargeCount token) : failure.isBadValue = true := by
  rcases h with hbad | hunforeseen
  · exact hbad
  · cases hunforeseen with
    | noPart hblank =>
      have hnone := (pieces_eq_nil_iff '.' token).2 hblank
      refine absurd ⟨fun hdotted => ?_, by rw [hnone]; exact Nat.zero_le 2⟩ hdots
      rw [hdotted.pieces_eq] at hnone
      cases hnone
    | count hlarge hin hpart => exact absurd ⟨_, hlarge, hin.trans hpart⟩ hcount

/-- A selection is read as one rule for each of its tokens, in order, which the token says without
its blank parts.  What is refused is a bad value, unless it is a token of nothing but dots and
blanks, or a count that is too large.

So if no dots go unnoticed, each token says its rule as it stands, and the selection is accepted if
and only if every token has at most one dot, a database in front of it, and texts that can be
compiled.  If besides no count is too large, everything else is refused as a bad value. -/
theorem readAll_grammar [CharacterNames] (ignoreCase : Bool) (selection : String) :
    (∀ rules, readAll ignoreCase selection.toList = .ok rules ↔
      List.Forall₂ (fun token r => Says ignoreCase (dense token) r) (pieces ',' selection.toList)
        rules) ∧
    (∀ failure, readAll ignoreCase selection.toList = .error failure →
      RefusedIn selection failure) ∧
    ((∀ token ∈ pieces ',' selection.toList, ¬Misdotted token) →
      (∀ rules, readAll ignoreCase selection.toList = .ok rules ↔
        List.Forall₂ (Says ignoreCase) (pieces ',' selection.toList) rules) ∧
      ((∃ rules, readAll ignoreCase selection.toList = .ok rules) ↔
        ∀ token ∈ pieces ',' selection.toList,
          WellDotted token ∧ ∀ text ∈ texts token, ∃ p, readPattern ignoreCase text = .ok p) ∧
      ((∀ token ∈ pieces ',' selection.toList, ¬HasLargeCount token) →
        ∀ failure, readAll ignoreCase selection.toList = .error failure →
          failure.isBadValue = true)) := by
  refine ⟨fun rules => ?_, fun failure => refusedIn_of_readAll, fun hdots => ?_⟩
  · rw [readAll, List.mapM_eq_ok_iff]
    simp only [ofToken_iff_says_dense]
  · have hrules : ∀ rules, readAll ignoreCase selection.toList = .ok rules ↔
        List.Forall₂ (Says ignoreCase) (pieces ',' selection.toList) rules := by
      intro rules
      rw [readAll, List.mapM_eq_ok_iff]
      exact List.forall₂_congr_left fun token htoken r => ofToken_iff_says (hdots token htoken)
    refine ⟨hrules, ?_, fun hcounts failure hfailure => ?_⟩
    · simp only [hrules, List.exists_forall₂_iff, exists_says_iff]
    · obtain ⟨token, htoken, hrefused⟩ := refusedIn_of_readAll hfailure
      exact isBadValue_of_refused hrefused (hdots token htoken) (hcounts token htoken)

/-! ### Cases -/

def firstGlob : Glob := ⟨['a'], by decide, by decide⟩

def secondGlob : Glob := ⟨['b'], by decide, by decide⟩

/-- Doubled dots and a dot in front are accepted, and a lone dot is refused, but not as a bad
value. -/
theorem dots_go_unnoticed :
    (pieces ',' "a..b".toList = ["a..b".toList] ∧ ¬WellDotted "a..b".toList ∧
      readAll true "a..b".toList
        = .ok [⟨firstGlob.pattern true, [secondGlob.pattern true]⟩]) ∧
    (pieces ',' ".a".toList = [".a".toList] ∧ ¬WellDotted ".a".toList ∧
      readAll true ".a".toList = .ok [⟨firstGlob.pattern true, []⟩]) ∧
    readAll true ".".toList = .error .emptyToken ∧ Failure.emptyToken.isBadValue = false := by
  have hfirst : readPattern true ['a'] = .ok (firstGlob.pattern true) :=
    firstGlob.readPattern_eq true
  have hsecond : readPattern true ['b'] = .ok (secondGlob.pattern true) :=
    secondGlob.readPattern_eq true
  refine ⟨⟨rfl, fun h => absurd h.dots (by decide), List.mapM_eq_ok_iff.2 (.cons ?_ .nil)⟩,
    ⟨rfl, fun h => absurd h.database (by decide), List.mapM_eq_ok_iff.2 (.cons ?_ .nil)⟩, rfl, rfl⟩
  · exact ofToken_eq_ok_iff.2 (.tables hfirst (.cons hsecond .nil))
  · exact ofToken_eq_ok_iff.2 (.database hfirst rfl)

theorem readAll_grammar_of_two :
    (∃ rules, readAll true " a.b , ,".toList = .ok rules ∧ rules.length = 1) ∧
      ∃ failure, readAll true "a.b.c".toList = .error failure ∧ failure.isBadValue = true := by
  constructor
  · have htokens : pieces ',' " a.b , ,".toList = ["a.b".toList] := rfl
    have hdotted : WellDotted "a.b".toList := ⟨by decide, by decide⟩
    obtain ⟨hrules, haccepted, -⟩ := (readAll_grammar true " a.b , ,").2.2 (by
      rw [htokens]
      intro token htoken h
      obtain rfl := List.mem_singleton.1 htoken
      exact h.1 hdotted)
    obtain ⟨rules, hread⟩ := haccepted.2 (by
      rw [htokens]
      intro token htoken
      obtain rfl := List.mem_singleton.1 htoken
      refine ⟨hdotted, fun text htext => ?_⟩
      rcases List.mem_cons.1 htext with rfl | htext
      · exact ⟨_, firstGlob.readPattern_eq true⟩
      · obtain rfl := List.mem_singleton.1 htext
        exact ⟨_, secondGlob.readPattern_eq true⟩)
    exact ⟨rules, hread, ((hrules rules).1 hread).length_eq.symm⟩
  · have htokens : pieces ',' "a.b.c".toList = ["a.b.c".toList] := rfl
    obtain ⟨-, haccepted, hrefused⟩ := (readAll_grammar true "a.b.c").2.2 (by
      rw [htokens]
      intro token htoken h
      obtain rfl := List.mem_singleton.1 htoken
      exact absurd h.2 (by decide))
    cases hread : readAll true "a.b.c".toList with
    | ok rules =>
      have hdotted := (haccepted.1 ⟨rules, hread⟩ "a.b.c".toList List.mem_cons_self).1
      exact absurd hdotted.dots (by decide)
    | error failure =>
      refine ⟨failure, rfl, hrefused ?_ failure hread⟩
      rw [htokens]
      rintro token htoken ⟨digits, -, hin⟩
      obtain rfl := List.mem_singleton.1 htoken
      exact absurd (hin.subset List.mem_cons_self) (by decide)

end Rule
end CatalogScout
