import CatalogScout.Commands.Session

/-!
The command line program.

Files are read before the run, which itself is a function of what was read: the file of settings
that the arguments name, and the files of the store that a lookup may come to.  There is no
workspace here, so whatever has to ask one fails.
-/

namespace CatalogScout
namespace Program

open Commands

/-- What stands at a path. -/
def entryAt (path : String) : IO (Option FileTree.Entry) := do
  try
    let octets ← IO.FS.readBinFile path
    return some (.file octets.toList)
  catch _ =>
    try
      let _ ← IO.FS.Handle.mk path .read
      return some .directory
    catch _ => return none

/-- Add what stands at a path and on the way to it. -/
def gather (t : FileTree) (p : Path) : IO FileTree :=
  p.ancestry.reverse.foldlM (fun t step => do
    match t.locate? step, ← entryAt step.text with
    | some place, some (.file octets) => return t.write place octets
    | some place, some .directory => return t.makeDirectory place
    | _, _ => return t) t

/-- The path of the file of settings that a command line names. -/
def settingsPath? (arguments : List String) : Option String := do
  let a ← readArguments helpSpecs false arguments
  match a.rest with
  | "hive" :: rest => (← readArguments groupSpecs false rest).last? .properties
  | _ => none

/-- The address that a command line looks up. -/
def lookedUp? (s : Surroundings) (arguments : List String) : Option String :=
  match read s.files arguments with
  | .command options name rest =>
    match Context.ofOptions s.login options, readCommand name rest with
    | .ok c, .ok (.config text) =>
      match c.finder.source.base, TableName.parse text with
      | .store root, .ok n => some (ConfigSource.nodeUri root n)
      | _, _ => none
    | _, _ => none
  | _ => none

/-- The files of stores that an address may lead to. -/
def storePaths (uri : String) : List Path :=
  match ConfigClient.target uri with
  | .ok (_, p) => p.ancestry.flatMap fun directory =>
    [directory.child TreeStore.markerName, directory.child TreeStore.settingsName]
  | .error _ => []

def offline : Outage := ⟨.connection, some "no workspace is connected"⟩

def alone (files stores : FileTree) : Surroundings where
  files := files
  stores := stores
  login _ _ := .error offline
  workspace := ⟨fun _ => .error offline, fun _ _ => .error offline, fun _ => .error offline⟩

def display (printed : Printed) : IO Unit :=
  match printed with
  | .line markup => IO.println markup
  | .status text => IO.println text
  | .table title columns rows => do
    IO.println title
    for row in columns :: rows do
      IO.println ("\t".intercalate row)

/-- Read what the command line may look at, run it and print what it came to. -/
def run (arguments : List String) : IO UInt32 := do
  let files ←
    match settingsPath? arguments with
    | none => pure FileTree.empty
    | some path => gather FileTree.empty (Path.ofString path)
  let paths := ((lookedUp? (alone files FileTree.empty) arguments).map storePaths).getD []
  let stores ← paths.foldlM gather FileTree.empty
  let session := Commands.run (alone files stores) arguments
  session.printed.forM display
  match session.ending with
  | .crash failure => IO.eprintln (failure.kindName ++ ": " ++ failure.message)
  | .exit _ => pure ()
  return UInt32.ofNat session.ending.code

end Program
end CatalogScout

def main (arguments : List String) : IO UInt32 := CatalogScout.Program.run arguments
