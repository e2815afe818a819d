import CatalogScout.Pattern.Node

/-!
The parts of a sequence while it is being read.  What a part is decides whether it may be
repeated, and whether alternatives that begin with it can share it.
-/

namespace CatalogScout
namespace Pattern

inductive Piece where
  | char (test : CharTest)
  | anchor (place : Anchor)
  | backref (number : Nat) (width : Width)
  | repeated (node : Node) (width : Width)
  /-- Plain brackets; they dissolve when the sequence around them is complete. -/
  | bare (contents : List Piece)
  | whole (node : Node) (width : Width)

namespace Piece

def node (mode : Mode) : Piece → Node
  | .char test => .char mode test
  | .anchor place => .anchor mode place
  | .backref number _ => .backref mode number
  | .repeated node _ => node
  | .bare _ => .empty
  | .whole node _ => node

def width : Piece → Width
  | .char _ => .one
  | .anchor _ => .zero
  | .backref _ width => width
  | .repeated _ width => width
  | .bare _ => .zero
  | .whole _ width => width

/-- A sequence without its plain brackets.  Contents of brackets are complete sequences, so one
level is enough. -/
def dissolve (pieces : List Piece) : List Piece :=
  pieces.flatMap fun
    | .bare contents => contents
    | p => [p]

def nodeOf (mode : Mode) (pieces : List Piece) : Node :=
  pieces.foldr (fun p rest => .seq (p.node mode) rest) .empty

def widthOf (pieces : List Piece) : Width := Width.sum (pieces.map width)

/-! ## Alternatives -/

/-- The two parts are the same test of one place or character. -/
def same : Piece → Piece → Bool
  | .char a, .char b => a = b
  | .anchor a, .anchor b => a = b
  | .backref a _, .backref b _ => a = b
  | _, _ => false

/-- Split off what all sequences begin with. -/
def sharedFront : List Piece → List (List Piece) → List Piece × List (List Piece)
  | [], others => ([], [] :: others)
  | p :: ps, others =>
    if others.all fun o => (o.head?.map p.same).getD false then
      let (front, rests) := sharedFront ps (others.map List.tail)
      (p :: front, rests)
    else
      ([], (p :: ps) :: others)

/-- The members of a set that says what the sequence says. -/
def asMembers : List Piece → Option (List Member)
  | [.char (.literal c)] => some [.code c]
  | [.char (.set false members)] => some members
  | _ => none

def distinct {α : Type} [DecidableEq α] : List α → List α
  | [] => []
  | a :: r => a :: (distinct r).filter (· ≠ a)

def branch (mode : Mode) : List (List Piece) → Node
  | [] => .empty
  | [one] => nodeOf mode one
  | first :: others => .alt (nodeOf mode first) (branch mode others)

def branchWidth : List (List Piece) → Width
  | [] => .zero
  | [one] => widthOf one
  | first :: others => (widthOf first).either (branchWidth others)

/-- Alternatives become one sequence: what they share in front, and then a set, if each is a
single character or set, or else a branch. -/
def alternatives (mode : Mode) : List (List Piece) → List Piece
  | [] => []
  | [one] => one
  | first :: others =>
    let (front, rests) := sharedFront first others
    match rests.mapM asMembers with
    | some members => front ++ [.char (.set false (distinct members.flatten))]
    | none => front ++ [.whole (branch mode rests) (branchWidth rests)]

end Piece

end Pattern
end CatalogScout
