import CatalogScout.Markup

/-!
What is handed to the console, before it is rendered.
-/

namespace CatalogScout

inductive Printed where
  | line (markup : String)
  /-- A note that is shown while something is going on. -/
  | status (text : String)
  | table (title : String) (columns : List String) (rows : List (List String))
deriving DecidableEq, Repr

namespace Printed

def info (markup : String) : Printed := .line ("[title]›[/] " ++ markup)

def success (markup : String) : Printed := .line ("[ok]✓[/] " ++ markup)

def warning (markup : String) : Printed := .line ("[warn]⚠[/] " ++ markup)

def error (markup : String) : Printed := .line ("[err]✗[/] " ++ markup)

def header (markup : String) : Printed := .line ("[title]" ++ markup ++ "[/]")

/-- A table whose cells show texts as they are. -/
def tableOf [Markup.Escaping] (title : String) (columns : List String)
    (rows : List (List String)) : Printed :=
  .table title columns (rows.map fun row => row.map Markup.escaped)

end Printed
end CatalogScout
