import CatalogScout.Proofs.Lists
import CatalogScout.Proofs.Pattern.Matching
import CatalogScout.Proofs.Selection.Policy
import CatalogScout.Proofs.Text.Trim

/-!
Selections made of globs: what they say, how they are written, and that the policy read from what
is written says the same.

A glob is a name in which stars stand for rows of characters.  It has no separator and no blank in
it, so a text written with globs can be cut at each of the separators without cutting a glob, and
white space anywhere between globs and separators is trimmed away.
-/

namespace CatalogScout

open Text Pattern

/-! ## Globs -/

def isGlobChar (c : Char) : Bool := c.isAlphanum || c = '_' || c = '*'

structure Glob where
  text : List Char
  text_ne_nil : text ≠ []
  allowed : text.all isGlobChar = true

/-- A name of ASCII characters without a line feed. -/
def PlainName (name : String) : Prop := ∀ c ∈ name.toList, c.toNat < 0x80 ∧ c ≠ '\n'

instance (name : String) : Decidable (PlainName name) :=
  List.decidableBAll _ name.toList

namespace Glob

/-- The whole name is the glob with each star replaced by some row of characters. -/
def Matches (ignoreCase : Bool) (g : Glob) (name : String) : Prop :=
  StarMatch (fun _ => True) (sameLetter ignoreCase) g.text name.toList

theorem isGlobChar_ascii {c : Char} (h : isGlobChar c = true) : c.toNat < 0x80 := by
  unfold isGlobChar Char.isAlphanum Char.isAlpha Char.isUpper Char.isLower Char.isDigit at h
  simp only [Bool.or_eq_true, Bool.and_eq_true, decide_eq_true_eq] at h
  rcases h with (((⟨-, h⟩ | ⟨-, h⟩) | ⟨-, h⟩) | rfl) | rfl
  · exact Nat.lt_of_le_of_lt (UInt32.le_iff_toNat_le.1 h) (by decide)
  · exact Nat.lt_of_le_of_lt (UInt32.le_iff_toNat_le.1 h) (by decide)
  · exact Nat.lt_of_le_of_lt (UInt32.le_iff_toNat_le.1 h) (by decide)
  · decide
  · decide

theorem globChars : ∀ n < 0x80, isGlobChar (Char.ofNat n) = true →
    isBlank (Char.ofNat n) = false ∧ (Char.ofNat n = '*' ∨ Char.ofNat n ∉ Reader.special) ∧
      Char.ofNat n ∉ [',', '.', '|'] := by
  decide +kernel

/-- Characters of globs are no blanks and no separators, and none but the star is special. -/
theorem apart_of_isGlobChar {c : Char} (h : isGlobChar c = true) :
    isBlank c = false ∧ (c = '*' ∨ c ∉ Reader.special) ∧ c ∉ [',', '.', '|'] := by
  have hc := globChars c.toNat (isGlobChar_ascii h)
  rw [Char.ofNat_toNat] at hc
  exact hc h

theorem isGlobChar_of_mem (g : Glob) {c : Char} (hc : c ∈ g.text) : isGlobChar c = true :=
  List.all_eq_true.1 g.allowed c hc

theorem tame (g : Glob) : Reader.Tame g.text :=
  fun _ hc => (apart_of_isGlobChar (g.isGlobChar_of_mem hc)).2.1

/-! ### As patterns -/

def pattern (ignoreCase : Bool) (g : Glob) : Pattern :=
  ⟨starred g.text, ignoreCase, starNode ignoreCase g.text⟩

theorem readPattern_eq [CharacterNames] (ignoreCase : Bool) (g : Glob) :
    Rule.readPattern ignoreCase g.text = .ok (g.pattern ignoreCase) := by
  rw [Rule.readPattern, compile_starred g.tame]
  rfl

theorem matchesName_iff {ignoreCase : Bool} {g : Glob} {name : String} (hname : PlainName name) :
    (g.pattern ignoreCase).matchesName name = true ↔ g.Matches ignoreCase name := by
  have hchar : ∀ c ∈ g.text, ∀ d ∈ name.toList,
      Mode.sameChar { ignoreCase := ignoreCase } c.toNat d.toNat = true ↔
        sameLetter ignoreCase c d :=
    fun c hc d hd => sameChar_iff (isGlobChar_ascii (g.isGlobChar_of_mem hc)) (hname d hd).1
  have hwild : ∀ d ∈ name.toList, wild { ignoreCase := ignoreCase } d := by
    intro d hd
    show (false || d.toNat != lineFeed) = true
    have hfeed : d.toNat ≠ lineFeed := fun heq => (hname d hd).2 (Char.toNat_inj.1 heq)
    simp [hfeed]
  rw [Pattern.matchesName, pattern, matchesWhole_starNode]
  constructor
  · exact StarMatch.congr (fun _ _ _ => trivial) fun c hc d hd => (hchar c hc d hd).1
  · exact StarMatch.congr (fun d hd _ => hwild d hd) fun c hc d hd => (hchar c hc d hd).2

end Glob

/-! ## Tokens -/

/-- Databases by a glob and, unless the list is empty, their tables by some globs.  The empty
list stands for no list of tables at all. -/
structure GlobToken where
  database : Glob
  tables : List Glob

namespace GlobToken

def Covers (ignoreCase : Bool) (t : GlobToken) (db table : String) : Prop :=
  t.database.Matches ignoreCase db ∧
    (t.tables = [] ∨ ∃ g ∈ t.tables, g.Matches ignoreCase table)

/-- Every table is covered whatever its name, as can be seen from the token: there is no list of
tables, or a bare star is in it. -/
def CoversAllTables (t : GlobToken) : Prop := t.tables = [] ∨ ∃ g ∈ t.tables, g.text = ['*']

instance (t : GlobToken) : Decidable t.CoversAllTables :=
  inferInstanceAs (Decidable (t.tables = [] ∨ ∃ g ∈ t.tables, g.text = ['*']))

def rule (ignoreCase : Bool) (t : GlobToken) : Rule :=
  ⟨t.database.pattern ignoreCase,
    if t.CoversAllTables then [] else t.tables.map (Glob.pattern ignoreCase)⟩

section Rule

variable {ignoreCase : Bool} {t : GlobToken} {db table : String}

theorem rule_coversDatabase (hdb : PlainName db) :
    (t.rule ignoreCase).coversDatabase db = true ↔ t.database.Matches ignoreCase db :=
  Glob.matchesName_iff hdb

theorem rule_coversAllTables :
    (t.rule ignoreCase).coversAllTables = true ↔ t.CoversAllTables := by
  show (if t.CoversAllTables then [] else _ : List Pattern).isEmpty = true ↔ _
  by_cases hall : t.CoversAllTables
  · simp [hall]
  · have hne : t.tables ≠ [] := fun h => hall (.inl h)
    simp [hall, hne]

theorem rule_coversTable (htable : PlainName table) :
    (t.rule ignoreCase).coversTable table = true ↔
      (t.tables = [] ∨ ∃ g ∈ t.tables, g.Matches ignoreCase table) := by
  rw [Rule.coversTable, Bool.or_eq_true, rule_coversAllTables]
  constructor
  · rintro ((hempty | ⟨g, hg, hstar⟩) | hany)
    · exact .inl hempty
    · refine .inr ⟨g, hg, ?_⟩
      rw [Glob.Matches, hstar, StarMatch.star_iff]
      exact ⟨_, [], (List.append_nil _).symm, fun _ _ => trivial, .nil⟩
    · simp only [rule, List.any_eq_true] at hany
      obtain ⟨p, hp, hmatch⟩ := hany
      split at hp
      · cases hp
      · obtain ⟨g, hg, rfl⟩ := List.mem_map.1 hp
        exact .inr ⟨g, hg, (Glob.matchesName_iff htable).1 hmatch⟩
  · rintro (hempty | ⟨g, hg, hmatch⟩)
    · exact .inl (.inl hempty)
    · by_cases hall : t.CoversAllTables
      · exact .inl hall
      · refine .inr (List.any_eq_true.2 ⟨g.pattern ignoreCase, ?_, ?_⟩)
        · rw [rule, if_neg hall]
          exact List.mem_map_of_mem hg
        · exact (Glob.matchesName_iff htable).2 hmatch

theorem rule_covers (hdb : PlainName db) (htable : PlainName table) :
    (t.rule ignoreCase).covers db table = true ↔ t.Covers ignoreCase db table := by
  rw [Rule.covers, Bool.and_eq_true, rule_coversDatabase hdb, rule_coversTable htable]
  rfl

end Rule

end GlobToken

/-! ## Written selections -/

/-- White space around a core. -/
def Padded (core text : List Char) : Prop :=
  ∃ front back, text = front ++ core ++ back ∧ isBlankText front = true ∧ isBlankText back = true

/-- The text of a token.  White space around the token or around its list of tables is white
space around the globs that stand there at the ends. -/
inductive GlobToken.Writes : GlobToken → List Char → Prop where
  | database {g : Glob} {text : List Char} : Padded g.text text → Writes ⟨g, []⟩ text
  | tables {g : Glob} {gs : List Glob} {front : List Char} {parts : List (List Char)} :
      Padded g.text front → gs ≠ [] → List.Forall₂ (fun g part => Padded g.text part) gs parts →
      Writes ⟨g, gs⟩ (front ++ '.' :: ['|'].intercalate parts)

/-- The parts between the commas are blank or write the tokens, in order. -/
def Written (tokens : List GlobToken) (spec : String) : Prop :=
  ∃ parts, spec.toList = [','].intercalate parts ∧
    List.Forall₂ GlobToken.Writes tokens (parts.filter fun part => !isBlankText part)

/-! ### Pieces -/

namespace Rule

theorem pieces_cons_blank {sep c : Char} (hsep : isBlank sep = false) (hc : isBlank c = true)
    (s : List Char) : pieces sep (c :: s) = pieces sep s := by
  have hne : c ≠ sep := by
    rintro rfl
    rw [hc] at hsep
    cases hsep
  cases hs : fields sep s with
  | nil => exact absurd hs (fields_ne_nil sep s)
  | cons p ps => rw [pieces, pieces, fields_cons hne hs, hs, List.map_cons, List.map_cons,
      trim_cons_blank hc]

theorem pieces_concat_blank {sep c : Char} (hsep : isBlank sep = false) (hc : isBlank c = true)
    (s : List Char) : pieces sep (s ++ [c]) = pieces sep s := by
  have hne : c ≠ sep := by
    rintro rfl
    rw [hc] at hsep
    cases hsep
  obtain ⟨ps, p, hs, hsc⟩ := fields_concat hne s
  rw [pieces, pieces, hs, hsc]
  simp only [List.map_append, List.map_cons, List.map_nil, trim_concat_blank hc]

theorem pieces_trim {sep : Char} (hsep : isBlank sep = false) (s : List Char) :
    pieces sep (trim s) = pieces sep s := by
  obtain ⟨front, back, hs, hfront, hback⟩ := eq_padded_trim s
  conv_rhs => rw [hs]
  exact (blank_ends_induction (fun _ _ hc => pieces_cons_blank hsep hc _)
    (fun _ _ hc => pieces_concat_blank hsep hc _) hfront hback _).symm

theorem pieces_intercalate {sep : Char} {parts : List (List Char)} (h : ∀ p ∈ parts, sep ∉ p) :
    pieces sep ([sep].intercalate parts)
      = (parts.filter fun part => !isBlankText part).map trim := by
  have hblank : (fun p : List Char => !p.isEmpty) ∘ trim = fun p => !isBlankText p := by
    funext p
    show (!(trim p).isEmpty) = !isBlankText p
    rw [Bool.eq_iff_iff]
    simp [trim_eq_nil_iff]
  by_cases hne : parts = []
  · subst hne
    rfl
  · rw [pieces, fields_intercalate hne h, List.filter_map, hblank]

end Rule

/-! ### Reading what is written -/

section Padded

variable {g : Glob} {text : List Char}

theorem trim_of_padded (h : Padded g.text text) : trim text = g.text := by
  obtain ⟨front, back, rfl, hfront, hback⟩ := h
  rw [trim_padded hfront hback]
  exact trim_of_no_blank fun c hc => (Glob.apart_of_isGlobChar (g.isGlobChar_of_mem hc)).1

theorem not_blank_of_padded (h : Padded g.text text) : isBlankText text = false := by
  rw [Bool.eq_false_iff, Ne, ← trim_eq_nil_iff, trim_of_padded h]
  exact g.text_ne_nil

theorem not_mem_of_padded (h : Padded g.text text) {c : Char} (hblank : isBlank c = false)
    (hc : c ∈ [',', '.', '|']) : c ∉ text := by
  obtain ⟨front, back, rfl, hfront, hback⟩ := h
  have hglob : c ∉ g.text := by
    intro hmem
    exact (Glob.apart_of_isGlobChar (g.isGlobChar_of_mem hmem)).2.2 hc
  simp only [List.mem_append, not_or]
  exact ⟨⟨not_mem_of_blank hfront hblank, hglob⟩, not_mem_of_blank hback hblank⟩

end Padded

section Tables

variable {gs : List Glob} {parts : List (List Char)}

theorem trims_of_padded (h : List.Forall₂ (fun g part => Padded g.text part) gs parts) :
    parts.map trim = gs.map Glob.text := by
  induction h with
  | nil => rfl
  | cons hpart _ ih => rw [List.map_cons, List.map_cons, trim_of_padded hpart, ih]

theorem pieces_tables (h : List.Forall₂ (fun g part => Padded g.text part) gs parts) :
    Rule.pieces '|' (['|'].intercalate parts) = gs.map Glob.text := by
  have hsep : ∀ p ∈ parts, '|' ∉ p :=
    List.Forall₂.forall_right (p := fun part => '|' ∉ part)
      (fun _ _ hp => not_mem_of_padded hp (by decide) (by decide)) h
  have hkeep : parts.filter (fun part => !isBlankText part) = parts := by
    refine List.filter_eq_self.2 ?_
    exact List.Forall₂.forall_right (fun _ _ hp => by simp [not_blank_of_padded hp]) h
  rw [Rule.pieces_intercalate hsep, hkeep, trims_of_padded h]

theorem readTables_eq [CharacterNames] (ignoreCase : Bool) (g : Glob) (hne : gs ≠ [])
    (h : List.Forall₂ (fun g part => Padded g.text part) gs parts) :
    Rule.readTables ignoreCase (trim (['|'].intercalate parts))
      = .ok (GlobToken.rule ignoreCase ⟨g, gs⟩).tables := by
  have hstar : (gs.map Glob.text).contains ['*'] = true ↔ GlobToken.CoversAllTables ⟨g, gs⟩ := by
    rw [List.contains_iff_mem, List.mem_map, GlobToken.CoversAllTables, or_iff_right hne]
  rw [Rule.readTables, Rule.pieces_trim (by decide), pieces_tables h, GlobToken.rule]
  by_cases hall : GlobToken.CoversAllTables ⟨g, gs⟩
  · rw [if_pos hall, if_pos (hstar.2 hall)]
  · rw [if_neg hall, if_neg (fun hc => hall (hstar.1 hc)), List.mapM_map]
    have hread : ∀ g' : Glob, Rule.readPattern ignoreCase g'.text = .ok (g'.pattern ignoreCase) :=
      Glob.readPattern_eq ignoreCase
    exact List.mapM_of_forall₂ (R := Eq) (fun _ a heq => heq ▸ hread a) (List.forall₂_refl gs)

end Tables

theorem ofToken_eq [CharacterNames] (ignoreCase : Bool) {t : GlobToken} {text : List Char}
    (h : t.Writes text) :
    Rule.ofToken ignoreCase (trim text) = .ok (t.rule ignoreCase) := by
  rw [Rule.ofToken, Rule.pieces_trim (by decide)]
  cases h with
  | @database g _ hg =>
    have hpieces : Rule.pieces '.' text = [g.text] := by
      have hdot := not_mem_of_padded hg (c := '.') (by decide) (by decide)
      rw [Rule.pieces, fields_of_not_mem hdot, List.map_singleton, trim_of_padded hg]
      simp [g.text_ne_nil]
    rw [hpieces]
    show (Rule.readPattern ignoreCase g.text >>= fun _ => _) = _
    rw [g.readPattern_eq]
    rfl
  | @tables g gs front parts hg hne hgs =>
    let names := ['|'].intercalate parts
    have hnames : trim names ≠ [] := by
      intro hempty
      have htables := pieces_tables hgs
      rw [← Rule.pieces_trim (by decide), hempty] at htables
      exact hne (List.map_eq_nil_iff.1 htables.symm)
    have hpieces : Rule.pieces '.' (front ++ '.' :: names) = [g.text, trim names] := by
      have hdot := not_mem_of_padded hg (c := '.') (by decide) (by decide)
      have hdots : '.' ∉ names := List.not_mem_intercalate (by decide)
        (List.Forall₂.forall_right (p := fun part => '.' ∉ part)
          (fun _ _ hp => not_mem_of_padded hp (by decide) (by decide)) hgs)
      rw [Rule.pieces, fields_append_sep hdot, fields_of_not_mem hdots, List.map_cons,
        List.map_singleton, trim_of_padded hg]
      simp [g.text_ne_nil, hnames]
    rw [hpieces]
    show (Rule.readPattern ignoreCase g.text >>= fun _ => _) = _
    rw [g.readPattern_eq]
    show (Rule.readTables ignoreCase (trim names) >>= fun _ => _) = _
    rw [readTables_eq ignoreCase g hne hgs]
    rfl

theorem comma_not_mem {t : GlobToken} {text : List Char} (h : t.Writes text) : ',' ∉ text := by
  cases h with
  | database hg => exact not_mem_of_padded hg (by decide) (by decide)
  | tables hg _ hgs =>
    have hparts := List.Forall₂.forall_right (p := fun part => ',' ∉ part)
      (fun _ _ hp => not_mem_of_padded hp (by decide) (by decide)) hgs
    have hbar : ',' ≠ '|' := by decide
    have hnames := List.not_mem_intercalate hbar hparts
    have hfront := not_mem_of_padded hg (c := ',') (by decide) (by decide)
    simp only [List.mem_append, List.mem_cons, not_or]
    exact ⟨hfront, by decide, hnames⟩

theorem readAll_written [CharacterNames] (ignoreCase : Bool) {tokens : List GlobToken}
    {spec : String} (h : Written tokens spec) :
    Rule.readAll ignoreCase spec.toList = .ok (tokens.map (GlobToken.rule ignoreCase)) := by
  obtain ⟨parts, hspec, htokens⟩ := h
  have hcomma : ∀ p ∈ parts, ',' ∉ p := by
    intro p hp
    cases hblank : isBlankText p with
    | true =>
      intro hmem
      exact absurd (List.all_eq_true.1 hblank ',' hmem) (by decide)
    | false =>
      exact List.Forall₂.forall_right (p := fun part => ',' ∉ part) (fun _ _ => comma_not_mem)
        htokens p (List.mem_filter.2 ⟨hp, by rw [hblank]; rfl⟩)
  rw [Rule.readAll, hspec, Rule.pieces_intercalate hcomma, List.mapM_map]
  exact List.mapM_of_forall₂ (R := GlobToken.Writes) (fun _ _ => ofToken_eq ignoreCase) htokens

namespace Policy

theorem ofTexts_eq_ok [CharacterNames] {whitelist blacklist : String} {ignoreCase : Bool}
    {included excluded : List Rule}
    (hin : Rule.readAll ignoreCase whitelist.toList = .ok included)
    (hex : Rule.readAll ignoreCase blacklist.toList = .ok excluded) :
    ofTexts whitelist blacklist ignoreCase
      = .ok ⟨whitelist, blacklist, ignoreCase, included, excluded, hin, hex⟩ := by
  unfold ofTexts
  split
  · next heq =>
    rw [hin] at heq
    cases heq
  · next heq =>
    obtain rfl := Except.ok.inj (hin.symm.trans heq)
    split
    · next heq =>
      rw [hex] at heq
      cases heq
    · next heq =>
      obtain rfl := Except.ok.inj (hex.symm.trans heq)
      rfl

/-- The policy read from two written selections accepts what some token of the first and no token
of the second covers, where a first selection without tokens covers everything. -/
theorem globs_meaning [CharacterNames] {inclusion exclusion : List GlobToken}
    {whitelist blacklist : String} (hin : Written inclusion whitelist)
    (hex : Written exclusion blacklist) (ignoreCase : Bool) :
    ∃ p, ofTexts whitelist blacklist ignoreCase = .ok p ∧
      (∀ db table, PlainName db → PlainName table →
        (p.accepts db table = true ↔
          (inclusion = [] ∨ ∃ t ∈ inclusion, t.Covers ignoreCase db table) ∧
            ¬∃ t ∈ exclusion, t.Covers ignoreCase db table)) ∧
      ∀ db, PlainName db →
        (p.acceptsDatabase db = true ↔
          (inclusion = [] ∨ ∃ t ∈ inclusion, t.database.Matches ignoreCase db) ∧
            ¬∃ t ∈ exclusion, t.database.Matches ignoreCase db ∧ t.CoversAllTables) := by
  have hread := ofTexts_eq_ok (readAll_written ignoreCase hin) (readAll_written ignoreCase hex)
  refine ⟨_, hread, ?_, ?_⟩
  · intro db table hdb htable
    rw [accepts_iff]
    simp only [List.map_eq_nil_iff, List.mem_map, exists_exists_and_eq_and,
      forall_exists_index, and_imp, forall_apply_eq_imp_iff₂, ← Bool.not_eq_true,
      GlobToken.rule_covers hdb htable, not_exists, not_and]
  · intro db hdb
    rw [acceptsDatabase_iff]
    simp only [List.map_eq_nil_iff, List.mem_map, exists_exists_and_eq_and,
      forall_exists_index, and_imp, forall_apply_eq_imp_iff₂, ← Bool.not_eq_true,
      GlobToken.rule_coversDatabase hdb, GlobToken.rule_coversAllTables, not_exists, not_and]

/-! ### A case -/

def anyGlob : Glob := ⟨['*'], by decide, by decide⟩

def peopleGlob : Glob := ⟨['h', 'r', '_', '*'], by decide, by decide⟩

def salesGlob : Glob := ⟨['S', 'a', 'l', 'e', 's'], by decide, by decide⟩

def draftGlob : Glob := ⟨['t', 'm', 'p', '*'], by decide, by decide⟩

theorem written_sample :
    Written [⟨peopleGlob, []⟩, ⟨salesGlob, [anyGlob, draftGlob]⟩] " hr_*,, Sales . * |tmp* " := by
  refine ⟨[" hr_*".toList, [], " Sales . * |tmp* ".toList], by decide, ?_⟩
  have hpeople : Padded peopleGlob.text " hr_*".toList :=
    ⟨[' '], [], by decide, by decide, by decide⟩
  have hsales : Padded salesGlob.text " Sales ".toList :=
    ⟨[' '], [' '], by decide, by decide, by decide⟩
  have hany : Padded anyGlob.text " * ".toList := ⟨[' '], [' '], by decide, by decide, by decide⟩
  have hdraft : Padded draftGlob.text "tmp* ".toList := ⟨[], [' '], by decide, by decide, by decide⟩
  have htoken := GlobToken.Writes.tables hsales (by decide) (.cons hany (.cons hdraft .nil))
  exact .cons (.database hpeople) (.cons htoken .nil)

theorem written_sample_blacklist : Written [⟨anyGlob, [draftGlob]⟩] "*.tmp*" := by
  refine ⟨["*.tmp*".toList], by decide, ?_⟩
  have hany : Padded anyGlob.text "*".toList := ⟨[], [], by decide, by decide, by decide⟩
  have hdraft : Padded draftGlob.text "tmp*".toList := ⟨[], [], by decide, by decide, by decide⟩
  exact .cons (.tables hany (by decide) (.cons hdraft .nil)) .nil

theorem people_match : peopleGlob.Matches true "HR_eu" := by
  show StarMatch _ _ ['h', 'r', '_', '*'] ['H', 'R', '_', 'e', 'u']
  refine .char (by decide) rfl (.char (by decide) rfl (.char (by decide) rfl ?_))
  exact .star ['e', 'u'] (fun _ _ => trivial) .nil

theorem draft_mismatch : ¬draftGlob.Matches true "staff" := by
  intro h
  have hchar : StarMatch _ (sameLetter true) ['t', 'm', 'p', '*'] ['s', 't', 'a', 'f', 'f'] := h
  cases hchar with
  | char _ hsame _ => exact absurd hsame (by unfold sameLetter; decide)

theorem globs_meaning_of_people :
    ∃ p, ofTexts " hr_*,, Sales . * |tmp* " "*.tmp*" true = .ok p ∧
      p.accepts "HR_eu" "staff" = true := by
  obtain ⟨p, hp, haccepts, -⟩ := globs_meaning written_sample written_sample_blacklist true
  refine ⟨p, hp, (haccepts "HR_eu" "staff" (by decide) (by decide)).2 ⟨?_, ?_⟩⟩
  · exact .inr ⟨_, List.mem_cons_self, people_match, .inl rfl⟩
  · rintro ⟨t, ht, -, hempty | ⟨g, hg, hmatch⟩⟩
    · obtain rfl := List.mem_singleton.1 ht
      cases hempty
    · obtain rfl := List.mem_singleton.1 ht
      obtain rfl := List.mem_singleton.1 hg
      exact draft_mismatch hmatch

end Policy
end CatalogScout
