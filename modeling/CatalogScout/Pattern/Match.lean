import CatalogScout.Pattern.Node

/-!
Matching by backtracking.  A part is run at a spot of the text and handed what is to be matched
behind it; it tries its own matches in order of preference until what follows succeeds too.
The order matters only to parts that keep their first match and never reconsider it: atomic
groups, possessive repetitions and look-around.

A repetition whose body matched without advancing does not go round again, which is what makes
the search finite.
-/

namespace CatalogScout
namespace Pattern

/-- A place in a text: what lies before it, nearest first, what lies after it, and what the
groups have captured, the latest first. -/
structure Spot where
  before : List Char
  after : List Char
  captures : List (Nat × List Char)
deriving DecidableEq, Repr

/-- What remains to be matched behind a part. -/
abbrev Follow := Spot → Option Spot

namespace Spot

def start (text : List Char) : Spot := ⟨[], text, []⟩

def step (s : Spot) (c : Char) (rest : List Char) : Spot :=
  { s with before := c :: s.before, after := rest }

/-- The same place some characters earlier. -/
def back? : Nat → Spot → Option Spot
  | 0, s => some s
  | n + 1, s =>
    match s.before with
    | [] => none
    | c :: r => back? n { s with before := r, after := c :: s.after }

def captured? (s : Spot) (number : Nat) : Option (List Char) := s.captures.lookup number

/-- Note that the group opened at `opened` and closed here. -/
def capture (s opened : Spot) (number : Nat) : Spot :=
  let text := opened.after.take (opened.after.length - s.after.length)
  { s with captures := (number, text) :: s.captures }

end Spot

/-! ## Places -/

def isWordAt (mode : Mode) : List Char → Bool
  | [] => false
  | c :: _ => isWord mode c.toNat

def Anchor.holds (mode : Mode) (s : Spot) : Anchor → Bool
  | .textStart => s.before.isEmpty
  | .textEnd => s.after.isEmpty
  | .lineStart =>
    match s.before with
    | [] => true
    | c :: _ => mode.multiline && c.toNat = lineFeed
  | .lineEnd =>
    match s.after with
    | [] => true
    | c :: r => c.toNat = lineFeed && (mode.multiline || r.isEmpty)
  | .boundary =>
    !(s.before.isEmpty && s.after.isEmpty) && isWordAt mode s.before != isWordAt mode s.after
  | .noBoundary =>
    !(s.before.isEmpty && s.after.isEmpty) && isWordAt mode s.before == isWordAt mode s.after

/-! ## Text seen before -/

/-- Whether a character repeats an earlier one.  Only lower case is compared here, without the
case partners. -/
def repeats (mode : Mode) (earlier c : Char) : Bool :=
  if mode.ignoreCase then mode.lower earlier.toNat == mode.lower c.toNat else earlier == c

/-- Move over a copy of a text. -/
def passCopy? (mode : Mode) : List Char → Spot → Option Spot
  | [], s => some s
  | e :: es, s =>
    match s.after with
    | [] => none
    | c :: r => if repeats mode e c then passCopy? mode es (s.step c r) else none

/-! ## Repetition -/

/-- Go round a fixed number of times. -/
def times (round : Spot → Follow → Option Spot) : Nat → Spot → Follow → Option Spot
  | 0, s, follow => follow s
  | n + 1, s, follow => round s fun t => times round n t follow

/-- Go round as often as possible, then less often. -/
def greedy (round : Spot → Follow → Option Spot) (left : Option Nat) (s : Spot)
    (follow : Follow) : Option Spot :=
  if left = some 0 then follow s
  else
    match round s fun t =>
        if t.after.length < s.after.length then
          greedy round (left.map (· - 1)) t follow
        else follow t with
    | some r => some r
    | none => follow s
termination_by s.after.length

/-- Go round as seldom as possible, then more often. -/
def reluctant (round : Spot → Follow → Option Spot) (left : Option Nat) (s : Spot)
    (follow : Follow) : Option Spot :=
  match follow s with
  | some r => some r
  | none =>
    if left = some 0 then none
    else
      round s fun t =>
        if t.after.length < s.after.length then
          reluctant round (left.map (· - 1)) t follow
        else follow t
termination_by s.after.length

/-- Go round as often as possible and stay there. -/
def possessive (round : Spot → Follow → Option Spot) (left : Option Nat) (s : Spot) : Spot :=
  if left = some 0 then s
  else
    match round s some with
    | none => s
    | some t =>
      if t.after.length < s.after.length then possessive round (left.map (· - 1)) t else t
termination_by s.after.length

/-- Go round a fixed number of times, keeping the first match of each round. -/
def timesFirst (round : Spot → Follow → Option Spot) : Nat → Spot → Option Spot
  | 0, s => some s
  | n + 1, s =>
    match round s some with
    | none => none
    | some t => timesFirst round n t

def repeatWith (greed : Greed) (least : Nat) (most : Option Nat)
    (round : Spot → Follow → Option Spot) (s : Spot) (follow : Follow) : Option Spot :=
  let left := most.map (· - least)
  match greed with
  | .greedy => times round least s fun t => greedy round left t follow
  | .reluctant => times round least s fun t => reluctant round left t follow
  | .possessive =>
    match timesFirst round least s with
    | none => none
    | some t => follow (possessive round left t)

/-! ## Matching -/

namespace Node

def run : Node → Spot → Follow → Option Spot
  | .empty, s, follow => follow s
  | .char mode test, s, follow =>
    match s.after with
    | [] => none
    | c :: r => if test.accepts mode c.toNat then follow (s.step c r) else none
  | .anchor mode place, s, follow => if place.holds mode s then follow s else none
  | .seq first second, s, follow => run first s fun t => run second t follow
  | .alt first second, s, follow =>
    match run first s follow with
    | some r => some r
    | none => run second s follow
  | .group number body, s, follow => run body s fun t => follow (t.capture s number)
  | .backref mode number, s, follow =>
    match s.captured? number with
    | none => none
    | some text =>
      match passCopy? mode text s with
      | none => none
      | some t => follow t
  | .ahead negated body, s, follow =>
    match run body s some with
    | some t => if negated then none else follow { s with captures := t.captures }
    | none => if negated then follow s else none
  | .behind negated width body, s, follow =>
    match (s.back? width.lo).bind fun t => run body t some with
    | some t => if negated then none else follow { s with captures := t.captures }
    | none => if negated then follow s else none
  | .atomic body, s, follow =>
    match run body s some with
    | some t => follow t
    | none => none
  | .repeated greed least most body, s, follow =>
    repeatWith greed least most (fun t k => run body t k) s follow
  | .ifGroup number yes no, s, follow =>
    match s.captured? number with
    | some _ => run yes s follow
    | none => run no s follow

/-- The pattern matches the text from its first to its last character. -/
def matchesWhole (node : Node) (text : List Char) : Bool :=
  (node.run (Spot.start text) fun s => if s.after.isEmpty then some s else none).isSome

end Node

end Pattern
end CatalogScout
