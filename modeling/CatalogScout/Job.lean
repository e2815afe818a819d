import CatalogScout.Selection
import CatalogScout.Settings.Properties

/-!
The settings of a job: under which keys a job says what it selects and where it looks.
-/

namespace CatalogScout

open Text

namespace Policy

/-- The policy whose two selections stand in settings. -/
def ofSettings [CharacterNames] (s : Settings) (ignoreCase : Bool) : Except Failure Policy :=
  ofTexts ((s.get? "whitelist").getD "") ((s.get? "blacklist").getD "") ignoreCase

end Policy

namespace Job

def scope : String := "hive.dataset"

def databaseKey : String := "hive.dataset.database"

def tablePatternKey : String := "hive.dataset.table.pattern"

def whitelistKey : String := "hive.dataset.whitelist"

def metastoreUriKey : String := "hive.dataset.hive.metastore.uri"

def catalogKey : String := "hive.dataset.catalog"

def poolSizeKey : String := "hive.metastore.client.pool.size"

def storeUriKey : String := "config.management.store.uri"

def configScopeKey : String := "hive.dataset.configPrefix"

/-- A value that is set and not empty. -/
def nonEmpty? (s : Settings) (key : String) : Option String :=
  (s.get? key).filter fun value => !value.isEmpty

/-- The selection of a fixed database: its tables, or those of a pattern. -/
def databaseSelection (s : Settings) (db : String) : String :=
  db ++ "." ++ (nonEmpty? s tablePatternKey).getD "*"

/-- The policy of a job.  A fixed database takes precedence over white- and blacklist. -/
def policy [CharacterNames] (s : Settings) : Except Failure Policy :=
  match s.get? databaseKey with
  | some db => Policy.ofTexts (databaseSelection s db) "" true
  | none =>
    if s.contains whitelistKey then Policy.ofSettings (s.within scope) true
    else .error .noSelection

end Job
end CatalogScout
