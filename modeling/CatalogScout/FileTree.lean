import CatalogScout.Path

/-!
A tree of files and directories, as a function from places to what stands there.

A place is the list of segments from the top.  The top is a directory, and so is whatever
something stands below (`parent_directory`), so a file has nothing below it.  Paths are looked
up from the top: the working directory is the top too, and the directory above the top is the
top again.
-/

namespace CatalogScout

inductive FileTree.Entry where
  | directory
  | file (octets : List UInt8)
deriving DecidableEq, Repr

/-- A tree of files and directories.

Trees are idealised: a name may be of any length, and whatever stands in a tree may be read.  A file
system has a limit to names, and permissions, and where one of them is in the way the question
whether a file stands at a path ends with a failure of the system instead of an answer.  No such
failure comes from a tree, so what is proved of lookups is about stores that a file system can hold
and that the user may read. -/
structure FileTree where
  entry : List String → Option FileTree.Entry
  top_directory : entry [] = some .directory
  parent_directory : ∀ place segment, entry (place ++ [segment]) ≠ none →
    entry place = some .directory

namespace FileTree

def empty : FileTree where
  entry place := if place = [] then some .directory else none
  top_directory := by simp
  parent_directory := by simp

instance : Inhabited FileTree := ⟨empty⟩

/-! ## Changing a tree -/

/-- Put an entry at a place below the top.  Whatever stood at the place or below it is gone, and
the places above become directories. -/
def place (t : FileTree) (parent : List String) (last : String) (e : Entry) : FileTree where
  entry q :=
    if q <+: parent then some .directory
    else if q = parent ++ [last] then some e
    else if parent ++ [last] <+: q then none
    else t.entry q
  top_directory := by simp
  parent_directory := by
    intro q segment h
    by_cases hq : q ++ [segment] <+: parent
    · have hp : q <+: parent := (List.prefix_append q [segment]).trans hq
      simp [hp]
    · by_cases he : q ++ [segment] = parent ++ [last]
      · have : q = parent := (List.append_inj' he rfl).1
        simp [this]
      · by_cases hb : parent ++ [last] <+: q ++ [segment]
        · simp [hq, he, hb] at h
        · simp only [hq, he, hb, if_false] at h
          have hd := t.parent_directory q segment h
          by_cases hp : q <+: parent
          · simp [hp]
          · have hne : q ≠ parent ++ [last] := by
              rintro rfl
              exact hb (List.prefix_append _ _)
            have hnb : ¬parent ++ [last] <+: q := fun hq' =>
              hb (hq'.trans (List.prefix_append _ _))
            simp [hp, hne, hnb, hd]

/-- Nothing can be put at the top. -/
def put (t : FileTree) (target : List String) (e : Entry) : FileTree :=
  match target.getLast? with
  | none => t
  | some last => t.place target.dropLast last e

def write (t : FileTree) (target : List String) (octets : List UInt8) : FileTree :=
  t.put target (.file octets)

/-- A directory that is there already keeps what stands in it. -/
def makeDirectory (t : FileTree) (target : List String) : FileTree :=
  if t.entry target = some .directory then t else t.put target .directory

/-- Remove whatever stands at a place or below it; the top itself stays. -/
def remove (t : FileTree) (target : List String) : FileTree where
  entry q := if q ≠ [] ∧ target <+: q then none else t.entry q
  top_directory := by simp [t.top_directory]
  parent_directory := by
    intro q segment h
    by_cases hb : target <+: q ++ [segment]
    · simp [hb] at h
    · have hnb : ¬target <+: q := fun hq => hb (hq.trans (List.prefix_append _ _))
      simp only [ne_eq, List.append_eq_nil_iff, List.cons_ne_self, and_false, not_false_eq_true,
        hb, if_false] at h
      simp [hnb, t.parent_directory q segment h]

@[simp]
theorem entry_place_self (t : FileTree) (parent : List String) (last : String) (e : Entry) :
    (t.place parent last e).entry (parent ++ [last]) = some e := by
  have : ¬parent ++ [last] <+: parent := fun h => by
    have hle := h.length_le
    rw [List.length_append, List.length_singleton] at hle
    omega
  simp [place, this]

/-- Beside a new entry nothing changes. -/
theorem entry_place_of_not_prefix (t : FileTree) {parent q : List String} {last : String}
    (e : Entry) (h : ¬parent ++ [last] <+: q) (h' : ¬q <+: parent) :
    (t.place parent last e).entry q = t.entry q := by
  have hne : q ≠ parent ++ [last] := by
    rintro rfl
    exact h (List.prefix_refl _)
  simp [place, h, h', hne]

theorem entry_remove (t : FileTree) (target q : List String) :
    (t.remove target).entry q = if q ≠ [] ∧ target <+: q then none else t.entry q := rfl

/-! ## Looking up paths -/

def isDirectoryAt (t : FileTree) (place : List String) : Bool :=
  t.entry place = some .directory

/-- Follow one segment.  Two dots lead out of a directory, so there must be one. -/
def follow (t : FileTree) (here : List String) (segment : String) : Option (List String) :=
  if segment.toList.contains '\x00' then none
  else if segment = ".." then if t.isDirectoryAt here then some here.dropLast else none
  else some (here ++ [segment])

/-- The place that a path leads to, whether or not something stands there. -/
def locate? (t : FileTree) (p : Path) : Option (List String) := p.segments.foldlM t.follow []

def lookup? (t : FileTree) (p : Path) : Option Entry := (t.locate? p).bind t.entry

/-- The octets of a file. -/
def file? (t : FileTree) (p : Path) : Option (List UInt8) :=
  match t.lookup? p with
  | some (.file octets) => some octets
  | _ => none

def isFile (t : FileTree) (p : Path) : Bool := (t.file? p).isSome

def isDirectory (t : FileTree) (p : Path) : Bool := t.lookup? p = some .directory

end FileTree
end CatalogScout
