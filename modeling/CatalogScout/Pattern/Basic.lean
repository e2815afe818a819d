import CatalogScout.Pattern.Match
import CatalogScout.Pattern.Parser.Sequence

/-!
Patterns: a text that is read once and then matched against whole names.
-/

namespace CatalogScout

structure Pattern where
  source : List Char
  ignoreCase : Bool
  node : Pattern.Node
deriving Repr

namespace Pattern

open Text

/-- The widest look-behind. -/
def maxBehind : Nat := Nat.pow 2 32 - 1

/-- A look-behind must have one width.  The outer of two nested ones is reported. -/
def Node.widthFault? : Node → Option Fault
  | .seq first second => first.widthFault?.or second.widthFault?
  | .alt first second => first.widthFault?.or second.widthFault?
  | .group _ body => body.widthFault?
  | .ahead _ body => body.widthFault?
  | .behind _ width body =>
    if maxBehind < width.lo then some .lookBehindTooWide
    else if width.lo != width.hi then some .variableLookBehind
    else body.widthFault?
  | .atomic body => body.widthFault?
  | .repeated _ _ _ body => body.widthFault?
  | .ifGroup _ yes no => yes.widthFault?.or no.widthFault?
  | _ => none

namespace Reader

/-- More calls than a pattern of this size can ask for. -/
def enough (size : Nat) : Nat := 8 * size + 8

/-- The first condition on a group that never came. -/
def checkAwaited : Reader Unit := do
  let s ← get
  match s.awaited.reverse.find? fun (number, _) => s.opened < number with
  | some (number, place) => faultAt (.noSuchGroup number) place
  | none => return

def wholePattern [CharacterNames] : Reader Node := do
  let start ← get
  moveTo start.rest
  let pieces ← alternation (enough start.size) start.mode true
  let s ← get
  if s.mode.ascii && s.mode.unicode then throw .bothAlphabets
  if (← peek).isSome then fault .unbalanced 0
  checkAwaited
  return Piece.nodeOf s.mode pieces

end Reader

/-- Read the text of a pattern.  Groups may be nested to any depth: the limit that an interpreter
puts on its own recursion, and so on groups inside groups, is not modelled. -/
def compile [CharacterNames] (ignoreCase : Bool) (source : List Char) : Except Fault Pattern := do
  let mode : Mode := { ignoreCase := ignoreCase }
  let cursor : Cursor := { size := source.length, rest := source, mode := mode }
  let (node, _) ← Reader.wholePattern.run cursor
  match node.widthFault? with
  | some fault => throw fault
  | none => return { source := source, ignoreCase := ignoreCase, node := node }

/-- The pattern matches the name from end to end. -/
def matchesName (p : Pattern) (name : String) : Bool := p.node.matchesWhole name.toList

end Pattern
end CatalogScout
