import CatalogScout.Pattern.CharTest

/-!
Patterns in the form that is matched.  Every part carries the mode it was read under, so
matching needs no context.
-/

namespace CatalogScout
namespace Pattern

inductive Anchor where
  | lineStart
  | lineEnd
  | textStart
  | textEnd
  | boundary
  | noBoundary
deriving DecidableEq, Repr

/-- How eagerly a repetition goes on once it has its minimum. -/
inductive Greed where
  | greedy
  | reluctant
  | possessive
deriving DecidableEq, Repr

/-- The shortest and the longest text a part can match. -/
structure Width where
  lo : Nat
  hi : Nat
deriving DecidableEq, Repr

inductive Node where
  | empty
  | char (mode : Mode) (test : CharTest)
  | anchor (mode : Mode) (place : Anchor)
  | seq (first second : Node)
  | alt (first second : Node)
  | group (number : Nat) (body : Node)
  | backref (mode : Mode) (number : Nat)
  | ahead (negated : Bool) (body : Node)
  | behind (negated : Bool) (width : Width) (body : Node)
  | atomic (body : Node)
  | repeated (greed : Greed) (least : Nat) (most : Option Nat) (body : Node)
  | ifGroup (number : Nat) (yes no : Node)
deriving Repr

namespace Width

/-- Widths are not told apart from here on. -/
def cap : Nat := Nat.pow 2 64

def capped (w : Width) : Width := ⟨min w.lo cap, min w.hi cap⟩

def zero : Width := ⟨0, 0⟩

def one : Width := ⟨1, 1⟩

def add (a b : Width) : Width := ⟨a.lo + b.lo, a.hi + b.hi⟩

def either (a b : Width) : Width := ⟨min a.lo b.lo, max a.hi b.hi⟩

def times (w : Width) (least : Nat) (most : Option Nat) : Width :=
  ⟨w.lo * least,
    match most with
    | some m => w.hi * m
    | none => if w.hi = 0 then 0 else cap⟩

/-- The width of parts in a row. -/
def sum (ws : List Width) : Width := (ws.foldl add zero).capped

end Width

end Pattern
end CatalogScout
