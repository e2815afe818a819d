import CatalogScout.Catalog.Table
import CatalogScout.Settings.Reading

/-!
A dataset: a table together with everything needed to process it.
-/

namespace CatalogScout

structure Dataset (Handle : Type) where
  /-- Access to files, passed on as it was given. -/
  handle : Handle
  table : Table
  /-- The settings of the job. -/
  job : Settings
  /-- The settings of this dataset. -/
  settings : Settings

namespace Dataset

variable {Handle : Type}

def name (d : Dataset Handle) : TableName := d.table.name

def urn (d : Dataset Handle) : String := d.name.text

def location (d : Dataset Handle) : Option String := d.table.location

def described (d : Dataset Handle) : String := "HiveDataset(" ++ d.urn ++ ")"

end Dataset
end CatalogScout
