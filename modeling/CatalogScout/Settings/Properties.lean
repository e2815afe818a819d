import CatalogScout.Settings.Reading
import CatalogScout.Text.Lines

/-!
Settings as text: one entry a line, key and value parted by the first equals sign or colon.
Blank lines and lines that begin with a number sign or an exclamation mark are skipped, and so
is a line without a key.  A single assignment, as it is given to override a setting, is parted
at the first equals sign only.
-/

namespace CatalogScout
namespace Settings

open Text

def isSeparator (c : Char) : Bool := c = '=' || c = ':'

/-- A line that carries no entry. -/
def isSkipped : List Char → Bool
  | [] => true
  | c :: _ => c = '#' || c = '!'

/-- Key and value of a line.  Without a separator the whole line is the key. -/
def cutEntry (line : List Char) : List Char × List Char :=
  match cutAt isSeparator line with
  | none => (trim line, [])
  | some (key, value) => (trim key, trim value)

def entryOfLine? (line : List Char) : Option (String × String) :=
  let line := trim line
  if isSkipped line then none
  else
    let (key, value) := cutEntry line
    if key.isEmpty then none else some (String.ofList key, String.ofList value)

/-- The settings that lines hold; of two lines with one key the later counts. -/
def ofLines (rows : List (List Char)) : Settings := ofList (rows.filterMap entryOfLine?)

def ofText (text : List Char) : Settings := ofLines (lines (unifyNewlines text))

/-- The settings that a file holds. -/
def ofOctets (octets : List UInt8) : Except Failure Settings :=
  match Utf8.decode octets with
  | .ok text => .ok (ofText text)
  | .error fault => .error (.undecodable octets fault)

def readAssignment (text : String) : Except Failure (String × String) :=
  match cutAt (· == '=') text.toList with
  | none => .error (.notAnAssignment text)
  | some (key, value) =>
    if isBlankText key then .error (.assignmentWithoutKey text)
    else .ok (String.ofList (trim key), String.ofList (trim value))

/-! ## The settings of a job -/

def profileKey : String := "databricks.profile"

/-- Settings from an optional file, then assignments in their order, then a profile unless it
is empty. -/
def ofJob (file : Option (List UInt8)) (assignments : List String) (profile : Option String) :
    Except Failure Settings := do
  let base ←
    match file with
    | none => .ok ∅
    | some octets => ofOctets octets
  let entries ← assignments.mapM readAssignment
  let settings := base.putAll entries
  match profile with
  | none => return settings
  | some name => return if name.isEmpty then settings else settings.put profileKey name

end Settings
end CatalogScout
