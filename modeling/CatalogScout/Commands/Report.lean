import CatalogScout.Commands.Invocation
import CatalogScout.Console
import CatalogScout.Discovery.Finder

/-!
What the commands print, as functions of what they found.
-/

namespace CatalogScout
namespace Commands

open Markup

structure Report where
  printed : List Printed
  ending : Ending

namespace Report

variable [Escaping]

/-- A message about a failure, and the code to end with. -/
def failed (markup : String) (code : Nat) : Report := ⟨[.error markup], .exit code⟩

/-- Print something first. -/
def behind (printed : List Printed) (r : Report) : Report :=
  { r with printed := printed ++ r.printed }

/-- What a failure to list the catalog comes to.  No other failure is expected. -/
def ofListingFailure (failure : Failure) : Report :=
  match failure with
  | .unlisted _ => failed (escaped failure.message) 1
  | _ => ⟨[], .crash failure⟩

def tablesFound (names : List TableName) : Report :=
  if names.isEmpty then ⟨[.warning "No tables found."], .exit 0⟩
  else
    ⟨[.header "Tables", .info ("Tables: " ++ toString names.length),
        .tableOf "Accepted tables" ["Database", "Table"] (names.map fun n => [n.db, n.table])],
      .exit 0⟩

def tables (found : Except Failure (List TableName)) : Report :=
  behind [.status "Listing catalog tables..."]
    (match found with
      | .ok names => tablesFound names
      | .error failure => ofListingFailure failure)

variable {Handle : Type}

def datasetRow (d : Dataset Handle) : List String :=
  [d.urn, d.table.kind.getD "", d.table.format.getD "", d.location.getD ""]

def datasetLines (found : List (Dataset Handle)) : List Printed :=
  if found.isEmpty then [.warning "No datasets found."]
  else
    [.header "Datasets", .info ("Datasets: " ++ toString found.length),
      .tableOf "Datasets" ["Dataset", "Type", "Format", "Location"] (found.map datasetRow)]

def failureRow (e : Event) : List String :=
  [(e.metadata.get? Event.urnKey).getD "", (e.metadata.get? Event.contextKey).getD ""]

/-- A table of what failed, or a line that all went well. -/
def outcome (found : List (Dataset Handle)) (failures : List Event) : Report :=
  if failures.isEmpty then
    ⟨[.success ("Discovered " ++ toString found.length ++ " dataset(s).")], .exit 0⟩
  else
    ⟨[.tableOf "Failed datasets" ["Dataset", "Error"] (failures.map failureRow),
        .error ("Failed to create " ++ toString failures.length ++ " dataset(s).")],
      .exit 1⟩

def datasets (found : Except Failure (List (Dataset Handle))) (events : List Event) : Report :=
  behind [.status "Discovering datasets..."]
    (match found with
      | .ok found =>
        behind (datasetLines found) (outcome found (Event.named Event.failedName events))
      | .error failure => ofListingFailure failure)

def settingsFound (n : TableName) (s : Settings) : Report :=
  if s.isEmpty then ⟨[.warning ("No config for " ++ n.text ++ ".")], .exit 0⟩
  else
    ⟨[.header ("Config for " ++ n.text),
        .tableOf n.text ["Key", "Value"] (s.entries.map fun (key, value) => [key, value])],
      .exit 0⟩

def config (n : TableName) (found : Except Failure Settings) : Report :=
  match found with
  | .ok s => settingsFound n s
  | .error failure =>
    if failure.stopsRun then ⟨[], .crash failure⟩
    else
      failed (escaped ("Failed to resolve config for " ++ n.text ++ ": " ++ failure.message)) 1

/-- A job that cannot be set up: a bad value or a failure of the system is told, and nothing
else is expected. -/
def ofJobFailure (failure : Failure) : Report :=
  if failure.isBadValue || failure.isSystemFailure then failed (escaped failure.message) 2
  else ⟨[], .crash failure⟩

end Report
end Commands
end CatalogScout
