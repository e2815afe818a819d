import CatalogScout.Failure
import CatalogScout.Text.Blank

/-!
Names of tables: a database and a table in it, written with a dot between them.
-/

namespace CatalogScout

open Text

structure TableName where
  db : String
  table : String
deriving DecidableEq, Repr

namespace TableName

def text (n : TableName) : String := n.db ++ "." ++ n.table

/-- Read a name with exactly one dot and something on both sides of it. -/
def parse (s : String) : Except Failure TableName :=
  match fields '.' (trim s.toList) with
  | [db, table] =>
    if db.isEmpty || table.isEmpty then .error .notATableName
    else .ok ⟨String.ofList db, String.ofList table⟩
  | _ => .error .notATableName

/-- By database, then by table. -/
def le (a b : TableName) : Bool := a.db < b.db || a.db = b.db && a.table ≤ b.table

/-- Where the settings of a table stand below the root of a store. -/
def nodeText (n : TableName) : String := "/hive/" ++ n.db ++ "/" ++ n.table

end TableName
end CatalogScout
