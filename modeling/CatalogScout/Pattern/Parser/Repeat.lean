import CatalogScout.Pattern.Parser.Escape
import CatalogScout.Pattern.Parser.Piece

/-!
Quantifiers.
-/

namespace CatalogScout
namespace Pattern

open Text

/-- A repetition count must be smaller than this. -/
def countEnd : Nat := Nat.pow 2 32 - 1

structure Bounds where
  least : Nat
  most : Option Nat

namespace Reader

def count (digits : List Char) : Reader Nat := do
  if maxDigits < digits.length then throw (.countTooLong digits.length)
  let n := numberOf 10 digits
  if countEnd ≤ n then throw .countTooLarge
  return n

/-- Bounds in braces, of which the opening one has been taken.  Braces that hold no bounds are
no quantifier, and nothing more is taken. -/
def boundsInBraces : Reader (Option Bounds) := do
  let here ← position
  let start := (← get).rest
  if (← peek) = some (.plain '\x7d') then return none
  let lo ← takeWhile isDigitChar
  let hi ← if ← accept ',' then takeWhile isDigitChar else pure lo
  if !(← accept '\x7d') then
    moveTo start
    return none
  let least ← if lo.isEmpty then pure 0 else count lo
  if hi.isEmpty then return some ⟨least, none⟩
  let most ← count hi
  if most < least then faultAt .repeatBoundsReversed here
  return some ⟨least, some most⟩

/-- The bounds a quantifier character stands for, if it is one. -/
def bounds? (c : Char) : Reader (Option Bounds) := do
  match c with
  | '?' => return some ⟨0, some 1⟩
  | '*' => return some ⟨0, none⟩
  | '+' => return some ⟨1, none⟩
  | '\x7b' => boundsInBraces
  | _ => return none

def greedOfSuffix : Reader Greed := do
  if ← accept '?' then return .reluctant
  if ← accept '+' then return .possessive
  return .greedy

/-- Repeat the last part, whose sequence is given in reverse.  The quantifier stands at
`place`. -/
def repeatLast (mode : Mode) (place : Nat) (bounds : Bounds) :
    List Piece → Reader (List Piece)
  | [] => faultAt .nothingToRepeat place
  | .anchor _ :: _ => faultAt .nothingToRepeat place
  | .repeated _ _ :: _ => faultAt .multipleRepeat place
  | last :: earlier => do
    let body :=
      match last with
      | .bare contents => contents
      | p => [p]
    let greed ← greedOfSuffix
    let node := Node.repeated greed bounds.least bounds.most (Piece.nodeOf mode body)
    return .repeated node ((Piece.widthOf body).times bounds.least bounds.most) :: earlier

end Reader

end Pattern
end CatalogScout
