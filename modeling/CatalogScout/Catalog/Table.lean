import CatalogScout.Settings.Basic
import CatalogScout.TableName

/-!
What is known of a table.
-/

namespace CatalogScout

structure Table where
  name : TableName
  /-- What kind of table it is. -/
  kind : Option String
  format : Option String
  location : Option String
  owner : Option String
  properties : Settings
  columns : List String

end CatalogScout
