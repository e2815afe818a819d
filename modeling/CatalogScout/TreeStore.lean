import CatalogScout.FileTree
import CatalogScout.Settings.Properties

/-!
Stores in a file tree.  A marker file makes a directory the root of a store; the node for a path
below the root has the settings of every directory from the root down to it, where a deeper
directory overrides the ones above.  Directories that do not exist have no settings.
-/

namespace CatalogScout
namespace TreeStore

def markerName : String := "_CONFIG_STORE"

def settingsName : String := "main.conf"

def hasMarker (t : FileTree) (directory : Path) : Bool := t.isFile (directory.child markerName)

/-- The root of the store that holds a path: the nearest marked directory at the path or above
it. -/
def rootOf (t : FileTree) (p : Path) : Except Failure Path :=
  match p.ancestry.find? (hasMarker t) with
  | some root => .ok root
  | none => .error (.noStore p.text)

def checkRoot (t : FileTree) (root : Path) : Except Failure Unit :=
  if t.isDirectory root then .ok () else .error (.rootNotADirectory root.text)

/-- The settings that stand in one directory. -/
def ownSettings (t : FileTree) (directory : Path) : Except Failure Settings :=
  match t.file? (directory.child settingsName) with
  | none => .ok ∅
  | some octets => Settings.ofOctets octets

/-- The directories from a root down to a node below it. -/
def chain (root node : Path) : List Path :=
  (Path.beginnings node.segments).map fun segments => root.join { node with segments }

/-- The settings of directories, of which a later one overrides an earlier one. -/
def merged (t : FileTree) (directories : List Path) : Except Failure Settings :=
  directories.foldlM (fun s d => s.override <$> ownSettings t d) ∅

/-- The settings of a node, given as a path below the root. -/
def settings (t : FileTree) (root node : Path) : Except Failure Settings :=
  merged t (chain root node)

end TreeStore
end CatalogScout
