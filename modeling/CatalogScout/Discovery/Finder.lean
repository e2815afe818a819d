import CatalogScout.Discovery.Run

/-!
Finding the tables of a catalog and making datasets of them.

Listing is all or nothing: a failure while databases or tables are listed ends it.  Making
datasets goes on after a failure: a table whose settings, description or dataset cannot be had
is logged, reported in an event and left out.  Only when the user stops the run, or when the
report itself is refused, does a failed table end the run.
-/

namespace CatalogScout

/-- What a job looks for, and where the settings of what it finds come from. -/
structure Finder where
  job : Settings
  policy : Policy
  source : ConfigSource

namespace Finder

open Discovery

def ofJob [Text.CharacterNames] (job : Settings) : Except Failure Finder := do
  return ⟨job, ← Job.policy job, ConfigSource.ofJob job⟩

variable {State Handle : Type}

/-! ## Tables -/

/-- The tables of one database that the policy accepts. -/
def acceptedIn (f : Finder) (db : String) (tables : List String) : List TableName :=
  (tables.filter (f.policy.accepts db)).map fun t => ⟨db, t⟩

/-- The accepted tables of databases.  A database that the policy rejects is not listed. -/
def listDatabases (f : Finder) (catalog : String) (c : Catalog) :
    List String → Run State (List TableName)
  | [] => pure []
  | db :: rest => do
    if f.policy.acceptsDatabase db then
      let tables ← request (.tables catalog db) (c.tables db)
      let others ← f.listDatabases catalog c rest
      return f.acceptedIn db tables ++ others
    else f.listDatabases catalog c rest

def listAll (f : Finder) (scene : Scene State Handle) (client : Connection) :
    Run State (List TableName) := do
  let c := scene.catalog client
  let databases ← request (.schemas client.catalog) c.databases
  f.listDatabases client.catalog c databases

/-- What a failed listing is reported as. -/
def listingFailure (failure : Failure) : Failure :=
  if failure.stopsRun then failure else .unlisted failure

/-- Every accepted table, in the order of the catalog. -/
def tables (f : Finder) (scene : Scene State Handle) : Run State (List TableName) := fun w =>
  match withClient scene (f.listAll scene) w with
  | .error failure w => .error (listingFailure failure) w
  | .ok found w =>
    .ok found (w.after
      [.log (.debug ("Found " ++ toString found.length ++ " candidate tables"))])

/-! ## Datasets -/

def optOutKey : String := "is.blacklisted"

/-- The dataset of a table, or nothing if the table's settings opt out. -/
def create (f : Finder) (scene : Scene State Handle) (n : TableName) :
    Run State (Option (Dataset Handle)) :=
  withClient scene fun client => do
    let settings ← resolve scene f.source n
    let optedOut ← accept (settings.boolean optOutKey false)
    if optedOut then
      log (.debug ("Skipping blacklisted dataset " ++ n.text))
      return none
    let table ← request (.table (Workspace.fullName client.catalog n))
      ((scene.catalog client).table n)
    let dataset ← accept (scene.build table settings)
    submit scene.sink (.found n)
    return some dataset

/-- Make the dataset of a table, and report it if that fails. -/
def visit (f : Finder) (scene : Scene State Handle) (n : TableName) :
    Run State (Option (Dataset Handle)) := fun w =>
  match f.create scene n w with
  | .ok found w => .ok found w
  | .error failure w =>
    if failure.stopsRun then .error failure w
    else
      (do log (.error ("Failed to create HiveDataset for table " ++ n.text))
          submit scene.sink (.failed n failure)
          return none : Run State (Option (Dataset Handle))) w

def visitAll (f : Finder) (scene : Scene State Handle) :
    List TableName → Run State (List (Dataset Handle))
  | [] => pure []
  | n :: rest => do
    let found ← f.visit scene n
    let others ← f.visitAll scene rest
    return found.toList ++ others

/-- Every dataset that could be made. -/
def datasets (f : Finder) (scene : Scene State Handle) : Run State (List (Dataset Handle)) := do
  let names ← f.tables scene
  f.visitAll scene names

/-- The directory above every dataset. -/
def commonRoot : Path := ⟨.absolute, []⟩

end Finder
end CatalogScout
