import CatalogScout.Commands.Arguments
import CatalogScout.Failure
import CatalogScout.FileTree
import CatalogScout.Text.Letter
import CatalogScout.Text.Decimal

/-!
What a command line asks for.

The command is found below one group.  The group takes the options that say which job is meant;
the commands take none.  A command line that cannot be read ends with code 2, and one that asks
for help with code 0.  The arguments behind a command's name are read only after the job has
been set up.
-/

namespace CatalogScout
namespace Commands

/-- How a run ends. -/
inductive Ending where
  | exit (code : Nat)
  /-- A failure that nobody expected. -/
  | crash (failure : Failure)
deriving Repr

namespace Ending

def usage : Ending := .exit 2

def help : Ending := .exit 0

/-- The code that the run ends with. -/
def code : Ending → Nat
  | .exit n => n
  | .crash failure => if failure.stopsRun then 130 else 1

end Ending

inductive CommandName where
  | tables
  | datasets
  | config
deriving DecidableEq, Repr

def CommandName.ofString? : String → Option CommandName
  | "tables" => some .tables
  | "datasets" => some .datasets
  | "config" => some .config
  | _ => none

inductive Command where
  | tables
  | datasets
  | config (table : String)
deriving DecidableEq, Repr

/-- What the group's options say. -/
structure JobOptions where
  profile : Option String
  file : Option (List UInt8)
  assignments : List String
  verbose : Bool

inductive Invocation where
  /-- The run ends before anything is set up. -/
  | ended (ending : Ending)
  /-- No command is named, so help is given. -/
  | groupHelp (verbose : Bool)
  | command (options : JobOptions) (name : CommandName) (arguments : List String)

/-! ## Levels -/

inductive GroupOption where
  | profile
  | properties
  | assignment
  | verbose
  | help
deriving DecidableEq, Repr

def helpSpecs : List (OptionSpec Unit) := [⟨(), "--help", none, false⟩]

def groupSpecs : List (OptionSpec GroupOption) :=
  [⟨.profile, "--profile", some 'p', true⟩, ⟨.properties, "--properties", some 'f', true⟩,
    ⟨.assignment, "--set", some 'D', true⟩, ⟨.verbose, "--verbose", some 'v', false⟩,
    ⟨.help, "--help", none, false⟩]

/-- A name that may have been meant as an option. -/
def looksLikeOption (name : String) : Bool :=
  match name.toList with
  | [] => false
  | c :: _ => !(Text.isLetterCode c.toNat || Text.isNumeralCode c.toNat)

/-- How a level ends whose next argument names nothing.  Where that argument looks like an
option, the arguments are read once more for a plea for help. -/
def unknownName {Name : Type} [BEq Name] (specs : List (OptionSpec Name)) (help : Name)
    (arguments : List String) : Ending :=
  match arguments with
  | [] => .usage
  | name :: _ =>
    if looksLikeOption name then
      match readArguments specs false arguments with
      | none => .usage
      | some a => if a.has help then .help else .usage
    else .usage

/-- A path that names a file, as it was typed: it does not end in a slash or in dots. -/
def namesFile (path : String) : Bool :=
  match (Text.fields '/' path.toList).getLast? with
  | none => false
  | some last => !(last = [] || last = ['.'] || last = ['.', '.'])

/-- The file of settings that the options name. -/
def settingsFile (files : FileTree) (a : Arguments GroupOption) :
    Except Ending (Option (List UInt8)) :=
  match a.last? .properties with
  | none => .ok none
  | some path =>
    if path.toList.contains '\x00' then .error (.crash .pathWithNul)
    else
      match if namesFile path then files.file? (Path.ofString path) else none with
      | none => .error .usage
      | some octets => .ok (some octets)

def readGroup (files : FileTree) (arguments : List String) : Invocation :=
  match readArguments groupSpecs false arguments with
  | none => .ended .usage
  | some a =>
    if a.has .help then .ended .help
    else
      match settingsFile files a with
      | .error ending => .ended ending
      | .ok file =>
        match a.rest with
        | [] => .groupHelp (a.has .verbose)
        | name :: rest =>
          match CommandName.ofString? name with
          | none => .ended (unknownName groupSpecs .help a.rest)
          | some command =>
            .command ⟨a.last? .profile, file, a.all .assignment, a.has .verbose⟩ command rest

/-- Read a command line up to the name of the command. -/
def read (files : FileTree) (arguments : List String) : Invocation :=
  match readArguments helpSpecs false arguments with
  | none => .ended .usage
  | some a =>
    if a.has () then .ended .help
    else
      match a.rest with
      | "hive" :: rest => readGroup files rest
      | others => .ended (unknownName helpSpecs () others)

/-- Read what stands behind the name of a command. -/
def readCommand (name : CommandName) (arguments : List String) : Except Ending Command :=
  match readArguments helpSpecs true arguments with
  | none => .error .usage
  | some a =>
    if a.has () then .error .help
    else
      match name, a.rest with
      | .tables, [] => .ok .tables
      | .datasets, [] => .ok .datasets
      | .config, [table] => .ok (.config table)
      | _, _ => .error .usage

end Commands
end CatalogScout
