import CatalogScout.Text.Blank
import CatalogScout.Text.Case
import CatalogScout.Text.Decimal
import CatalogScout.Text.Letter

/-!
What a pattern asks of a single character: to be a given one, to be any other, to belong to a
set.  The answer depends on the mode in force, foremost on whether letter case counts.

A code point is a number here rather than a `Char`, because a pattern may name a surrogate, which
no text contains.
-/

namespace CatalogScout
namespace Pattern

open Text

/-- The switches a pattern is read under. -/
structure Mode where
  ignoreCase : Bool := false
  multiline : Bool := false
  dotAll : Bool := false
  verbose : Bool := false
  ascii : Bool := false
  unicode : Bool := false
deriving DecidableEq, Repr

inductive Category where
  | digit
  | space
  | word
deriving DecidableEq, Repr

inductive Member where
  | code (c : Nat)
  | range (lo hi : Nat)
  | category (kind : Category) (negated : Bool)
deriving DecidableEq, Repr

inductive CharTest where
  | literal (code : Nat)
  | other (code : Nat)
  | any
  | set (negated : Bool) (members : List Member)
deriving DecidableEq, Repr

def lineFeed : Nat := 0x0a

/-! ## Categories -/

def isAsciiSpace (c : Nat) : Bool := 0x09 ≤ c && c ≤ 0x0d || c = 0x20

def isAsciiDigit (c : Nat) : Bool := 0x30 ≤ c && c ≤ 0x39

def isAsciiWord (c : Nat) : Bool := isAsciiLetterCode c || isAsciiDigit c || c = 0x5f

def Category.holds (ascii : Bool) : Category → Nat → Bool
  | .digit, c => if ascii then isAsciiDigit c else isDecimalCode c
  | .space, c => if ascii then isAsciiSpace c else isBlankCode c
  | .word, c => if ascii then isAsciiWord c else isWordCode c

def isWord (mode : Mode) (c : Nat) : Bool := Category.word.holds mode.ascii c

/-! ## Letter case -/

def Mode.lower (mode : Mode) (c : Nat) : Nat :=
  if mode.ascii then lowerAsciiCode c else lowerCode c

def Mode.isCased (mode : Mode) (c : Nat) : Bool :=
  if mode.ascii then isAsciiLetterCode c else isCasedCode c

/-- The lower-case characters that a lower-case character stands for when case is ignored. -/
def Mode.variants (mode : Mode) (lower : Nat) : List Nat :=
  if mode.ascii then [lower] else lower :: casePartners lower

/-- Letter case is ignored and the character has letter case. -/
def Mode.folds (mode : Mode) (c : Nat) : Bool := mode.ignoreCase && mode.isCased c

def Mode.sameChar (mode : Mode) (pattern c : Nat) : Bool :=
  if mode.folds pattern then (mode.variants (mode.lower pattern)).contains (mode.lower c)
  else pattern == c

/-! ## Sets -/

def bmpEnd : Nat := 0x10000

/-- Some code point of a closed interval has the property. -/
def anyInRange (lo hi : Nat) (p : Nat → Bool) : Bool :=
  (List.range' lo (hi + 1 - lo)).any p

/-- A member decides whether case matters for the whole set.  An interval that leaves the
basic plane always does. -/
def Member.folds (mode : Mode) : Member → Bool
  | .code c => mode.folds c || mode.ignoreCase && !mode.ascii && bmpEnd ≤ mode.lower c
  | .range lo hi =>
    mode.ignoreCase && (bmpEnd ≤ hi || anyInRange lo hi mode.isCased)
  | .category _ _ => false

def Member.holds (ascii : Bool) : Member → Nat → Bool
  | .code m, c => m == c
  | .range lo hi, c => lo ≤ c && c ≤ hi
  | .category kind negated, c => kind.holds ascii c != negated

/-- Membership of a lower-case character in a set that ignores case.  Outside the basic plane a
character stands for itself only, and an interval for what it and its upper case enclose. -/
def Member.holdsFolded (mode : Mode) (m : Member) (lower : Nat) : Bool :=
  match m with
  | .code c =>
    if bmpEnd ≤ mode.lower c then c == lower
    else (mode.variants (mode.lower c)).contains lower
  | .range lo hi =>
    anyInRange lo (min hi (bmpEnd - 1)) (fun c => (mode.variants (mode.lower c)).contains lower)
      || bmpEnd ≤ hi
        && (lo ≤ lower && lower ≤ hi || lo ≤ upperCode lower && upperCode lower ≤ hi)
  | .category kind negated => kind.holds mode.ascii lower != negated

def setHolds (mode : Mode) (members : List Member) (c : Nat) : Bool :=
  if members.any (·.folds mode) then members.any (·.holdsFolded mode (mode.lower c))
  else members.any (·.holds mode.ascii c)

def CharTest.accepts (mode : Mode) : CharTest → Nat → Bool
  | .literal p, c => mode.sameChar p c
  | .other p, c => !mode.sameChar p c
  | .any, c => mode.dotAll || c != lineFeed
  | .set negated members, c => setHolds mode members c != negated

end Pattern
end CatalogScout
