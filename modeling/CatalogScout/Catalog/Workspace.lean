import CatalogScout.Catalog.Table
import CatalogScout.Connection

/-!
The catalogs of a workspace, and how their entries are read.

A workspace describes databases and tables loosely: whatever it says of one may be missing, and
a label may be plain or wrapped.  A database without a name goes by the last part of its full
name, and what has no name at all is left out of a listing.
-/

namespace CatalogScout

open Text

/-- A plain value of a label. -/
inductive Scalar where
  | text (s : String)
  | number (n : Int)
  | truth (b : Bool)
  | nothing
deriving DecidableEq, Repr

inductive Label where
  | plain (s : Scalar)
  /-- A wrapped value is read even if it is nothing. -/
  | wrapped (s : Scalar)
deriving DecidableEq, Repr

structure SchemaEntry where
  name : Option String
  fullName : Option String
deriving DecidableEq, Repr

structure TableEntry where
  name : Option String
deriving DecidableEq, Repr

/-- The description of a table. -/
structure TableInfo where
  db : Option String := none
  name : Option String := none
  kind : Option Label := none
  format : Option Label := none
  location : Option String := none
  owner : Option String := none
  properties : Settings := ∅
  columns : List (Option String) := []

/-- What a workspace answers. -/
structure Workspace where
  schemas : (catalog : String) → Except Outage (List SchemaEntry)
  tables : (catalog db : String) → Except Outage (List TableEntry)
  table : (fullName : String) → Except Outage TableInfo

/-- What discovery asks of a catalog. -/
structure Catalog where
  databases : Except Failure (List String)
  tables : (db : String) → Except Failure (List String)
  table : TableName → Except Failure Table

def Scalar.written : Scalar → String
  | .text s => s
  | .number n => toString n
  | .truth true => "True"
  | .truth false => "False"
  | .nothing => "None"

def Label.written? : Label → Option String
  | .plain .nothing => none
  | .plain s => some s.written
  | .wrapped s => some s.written

namespace SchemaEntry

/-- The part of a full name behind its last dot. -/
def lastPart (fullName : String) : String :=
  String.ofList (behindLast '.' fullName.toList)

def shownName? (e : SchemaEntry) : Option String :=
  match Connection.given? e.name with
  | some name => some name
  | none => Connection.given? ((Connection.given? e.fullName).map lastPart)

end SchemaEntry

/-- The table that a description is about.  What it does not name goes by the name that was
asked for. -/
def TableInfo.toTable (info : TableInfo) (asked : TableName) : Table where
  name := ⟨(Connection.given? info.db).getD asked.db,
    (Connection.given? info.name).getD asked.table⟩
  kind := info.kind.bind Label.written?
  format := info.format.bind Label.written?
  location := info.location
  owner := info.owner
  properties := info.properties
  columns := info.columns.filterMap Connection.given?

namespace Workspace

def fullName (catalog : String) (n : TableName) : String :=
  catalog ++ "." ++ n.db ++ "." ++ n.table

/-- An outage of the workspace is a failure. -/
def answered {α β : Type} (read : α → β) : Except Outage α → Except Failure β
  | .ok a => .ok (read a)
  | .error o => .error (.outage o)

/-- One catalog of the workspace. -/
def catalog (w : Workspace) (name : String) : Catalog where
  databases := answered (·.filterMap SchemaEntry.shownName?) (w.schemas name)
  tables db := answered (·.filterMap fun e => Connection.given? e.name) (w.tables name db)
  table n := answered (·.toTable n) (w.table (fullName name n))

end Workspace
end CatalogScout
