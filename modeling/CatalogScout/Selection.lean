import CatalogScout.Failure
import CatalogScout.Text.Blank

/-!
Selecting databases and tables by name.

A selection is written as tokens between commas, each a database or a database, a dot and
tables between bars; every name may be a pattern.  A token without tables covers all tables of
its databases.  A policy accepts what some rule of its whitelist covers, or anything if the
whitelist has no rule, except what a rule of its blacklist covers.
-/

namespace CatalogScout

open Text

/-- One token of a selection: databases and, unless it covers them all, their tables. -/
structure Rule where
  database : Pattern
  tables : List Pattern
deriving Repr

namespace Rule

def coversDatabase (r : Rule) (db : String) : Bool := r.database.matchesName db

/-- Every table of the rule's databases is covered. -/
def coversAllTables (r : Rule) : Bool := r.tables.isEmpty

def coversTable (r : Rule) (table : String) : Bool :=
  r.coversAllTables || r.tables.any (·.matchesName table)

def covers (r : Rule) (db table : String) : Bool := r.coversDatabase db && r.coversTable table

/-! ## Reading -/

variable [CharacterNames]

/-- The pieces between separators, without the blanks around them and without blank pieces. -/
def pieces (sep : Char) (s : List Char) : List (List Char) :=
  ((fields sep s).map trim).filter fun p => !p.isEmpty

def readPattern (ignoreCase : Bool) (source : List Char) : Except Failure Pattern :=
  match Pattern.compile ignoreCase (Pattern.starred source) with
  | .ok p => .ok p
  | .error fault => .error (.badPattern source fault)

/-- The tables of a token.  A bare star among them stands for all tables. -/
def readTables (ignoreCase : Bool) (source : List Char) : Except Failure (List Pattern) :=
  let names := pieces '|' source
  if names.contains ['*'] then .ok [] else names.mapM (readPattern ignoreCase)

def ofToken (ignoreCase : Bool) (token : List Char) : Except Failure Rule :=
  match pieces '.' token with
  | [] => .error .emptyToken
  | [db] => do
    let database ← readPattern ignoreCase db
    return ⟨database, []⟩
  | [db, names] => do
    let database ← readPattern ignoreCase db
    let tables ← readTables ignoreCase names
    return ⟨database, tables⟩
  | _ => .error (.crowdedToken token)

/-- The rules of a selection, one per token. -/
def readAll (ignoreCase : Bool) (selection : List Char) : Except Failure (List Rule) :=
  (pieces ',' selection).mapM (ofToken ignoreCase)

end Rule

structure Policy where
  /-- The characters that its patterns could tell by name. -/
  [names : CharacterNames]
  whitelist : String
  blacklist : String
  ignoreCase : Bool
  included : List Rule
  excluded : List Rule
  included_eq : Rule.readAll ignoreCase whitelist.toList = .ok included
  excluded_eq : Rule.readAll ignoreCase blacklist.toList = .ok excluded

namespace Policy

def ofTexts [CharacterNames] (whitelist blacklist : String) (ignoreCase : Bool) :
    Except Failure Policy :=
  match hw : Rule.readAll ignoreCase whitelist.toList with
  | .error failure => .error failure
  | .ok included =>
    match hb : Rule.readAll ignoreCase blacklist.toList with
    | .error failure => .error failure
    | .ok excluded =>
      .ok ⟨whitelist, blacklist, ignoreCase, included, excluded, hw, hb⟩

/-- Some table of the database may be accepted. -/
def acceptsDatabase (p : Policy) (db : String) : Bool :=
  (p.included.isEmpty || p.included.any (·.coversDatabase db)) &&
    !p.excluded.any fun r => r.coversDatabase db && r.coversAllTables

def accepts (p : Policy) (db table : String) : Bool :=
  (p.included.isEmpty || p.included.any (·.covers db table)) &&
    !p.excluded.any (·.covers db table)

/-- The same texts, read in the same way. -/
def sameAs (p q : Policy) : Bool :=
  p.whitelist = q.whitelist && p.blacklist = q.blacklist && p.ignoreCase = q.ignoreCase

def described (p : Policy) : String :=
  "WhitelistBlacklist(whitelist=" ++ quotedString p.whitelist ++ ", blacklist="
    ++ quotedString p.blacklist ++ ", ignore_case="
    ++ (if p.ignoreCase then "True" else "False") ++ ")"

/-- Two policies written alike, and read with the same names of characters, are one policy. -/
theorem eq_of_sameAs {p q : Policy} (hnames : p.names = q.names) (h : p.sameAs q = true) :
    p = q := by
  cases p with
  | @mk names w b i inc exc hw hb =>
    cases q with
    | @mk names' w' b' i' inc' exc' hw' hb' =>
      obtain rfl : names = names' := hnames
      simp only [sameAs, Bool.and_eq_true, decide_eq_true_eq] at h
      obtain ⟨⟨rfl, rfl⟩, rfl⟩ := h
      obtain rfl : inc = inc' := Except.ok.inj (hw.symm.trans hw')
      obtain rfl : exc = exc' := Except.ok.inj (hb.symm.trans hb')
      rfl

end Policy
end CatalogScout
