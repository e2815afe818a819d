import CatalogScout.Pattern.Parser.Flags
import CatalogScout.Pattern.Parser.Repeat
import CatalogScout.Pattern.Parser.Set
import CatalogScout.Text.Identifier

/-!
Sequences, alternatives and groups.  Every call takes a bound on the calls still to come; the
length of the pattern gives one that is never reached, since each round takes a token.
-/

namespace CatalogScout
namespace Pattern

open Text

/-- What an opening bracket leads to. -/
inductive Opening where
  | comment
  | switched (mode : Mode)
  | part (piece : Piece)

/-- Numbers of groups end here. -/
def groupEnd : Nat := Nat.pow 2 30 - 1

namespace Reader

/-- A reader that ran out of calls, which a sufficient bound excludes. -/
def exhausted {α : Type} : Reader α := fault .unexpectedEnd 0

def isPatternSpace (t : Token) : Bool :=
  [' ', '\t', '\n', '\r', '\x0b', '\x0c'].any fun c => t = .plain c

/-- Skip tokens up to and including a character; tells whether it was found. -/
def skipPast (c : Char) : Nat → Reader Bool
  | 0 => return false
  | n + 1 => do
    match ← next with
    | none => return false
    | some t => if t = .plain c then return true else skipPast c n

def pieceOfEscape [CharacterNames] (c : Char) : Reader Piece := do
  match ← escapeOutside c with
  | .code code => return .char (.literal code)
  | .category kind negated => return .char (.set false [.category kind negated])
  | .anchor place => return .anchor place
  | .group number => return .backref number (← groupWidth number)

def checkGroupName (name : List Char) : Reader Unit := do
  if !isIdentifier name then fault (.badGroupName name) (name.length + 1)

/-- The reference of `(?P=name)`. -/
def namedReference : Reader Piece := do
  let name ← name ')' "group name"
  checkGroupName name
  match (← get).names.lookup name with
  | none => fault (.unknownGroupName name) (name.length + 1)
  | some number =>
    if !(← groupClosed number) then fault .openGroup (name.length + 1)
    checkBehind number
    return .backref number (← groupWidth number)

/-- The group that a condition asks for, by name or by number.  A number may belong to a group
that comes later. -/
def conditionGroup : Reader Nat := do
  let label ← name ')' "group name"
  let back := label.length + 1
  if isIdentifier label then
    match (← get).names.lookup label with
    | none => fault (.unknownGroupName label) back
    | some number =>
      checkBehind number
      return number
  match readInteger? (trim label) with
  | some (.ofNat number) =>
    if number = 0 then fault .badGroupNumber back
    if groupEnd ≤ number then fault (.noSuchGroup number) back
    let place := (← position) - back
    modify fun s =>
      if (s.awaited.lookup number).isSome then s
      else { s with awaited := (number, place) :: s.awaited }
    checkBehind number
    return number
  | _ => fault (.badGroupName label) back

def closeBracket (start : Nat) : Reader Unit := do
  if !(← accept ')') then faultAt .unterminatedGroup start

def noComment (start : Nat) : Reader Opening := do
  let bound := (← get).rest.length + 1
  if ← skipPast ')' bound then return .comment
  else faultAt .unterminatedComment start

section Groups

variable [CharacterNames]

mutual

/-- The sequences between the bars.  The outermost ones follow the switches for the whole
pattern. -/
def branches : Nat → Mode → Bool → List (List Piece) → Reader (List (List Piece))
  | 0, _, _, _ => exhausted
  | n + 1, mode, outermost, done => do
    let state ← get
    let mode := if outermost then state.mode else mode
    let pieces ← sequence n mode (outermost && done.isEmpty) []
    if ← accept '|' then branches n mode outermost (pieces :: done)
    else return (pieces :: done).reverse

def alternation : Nat → Mode → Bool → Reader (List Piece)
  | 0, _, _ => exhausted
  | n + 1, mode, outermost => do
    let sequences ← branches n mode outermost []
    let state ← get
    let mode := if outermost then state.mode else mode
    return Piece.alternatives mode sequences

/-- The parts up to a bar, a closing bracket or the end, read so far in reverse. -/
def sequence : Nat → Mode → Bool → List Piece → Reader (List Piece)
  | 0, _, _, _ => exhausted
  | n + 1, mode, first, parts => do
    match ← peek with
    | none => return Piece.dissolve parts.reverse
    | some t =>
      if t = .plain '|' || t = .plain ')' then
        return Piece.dissolve parts.reverse
      let _ ← next
      if mode.verbose && isPatternSpace t then
        return ← sequence n mode first parts
      if mode.verbose && t = .plain '#' then
        let bound := (← get).rest.length + 1
        let _ ← skipPast '\n' bound
        return ← sequence n mode first parts
      match t with
      | .escaped c =>
        let piece ← pieceOfEscape c
        sequence n mode first (piece :: parts)
      | .plain '[' =>
        let test ← set
        sequence n mode first (.char test :: parts)
      | .plain '.' => sequence n mode first (.char .any :: parts)
      | .plain '^' => sequence n mode first (.anchor .lineStart :: parts)
      | .plain '$' => sequence n mode first (.anchor .lineEnd :: parts)
      | .plain '(' =>
        match ← opening n mode (first && parts.isEmpty) with
        | .comment => sequence n mode first parts
        | .switched mode => sequence n mode first parts
        | .part piece => sequence n mode first (piece :: parts)
      | .plain c =>
        let place := (← position) - 1
        match ← bounds? c with
        | some bounds =>
          let parts ← repeatLast mode place bounds parts
          sequence n mode first parts
        | none => sequence n mode first (.char (.literal c.toNat) :: parts)

/-- What follows an opening bracket that has been taken. -/
def opening : Nat → Mode → Bool → Reader Opening
  | 0, _, _ => exhausted
  | n + 1, mode, first => do
    let start := (← position) - 1
    if !(← accept '?') then
      return .part (← capturing n mode start none)
    match ← next with
    | none => fault .unexpectedEnd 0
    | some (.plain 'P') =>
      if ← accept '<' then
        let label ← name '>' "group name"
        checkGroupName label
        return .part (← capturing n mode start (some label))
      if ← accept '=' then
        return .part (← namedReference)
      match ← next with
      | none => fault .unexpectedEnd 0
      | some t => fault (.unknownExtension ('P' :: t.text)) (t.text.length + 2)
    | some (.plain ':') =>
      let contents ← alternation n mode false
      closeBracket start
      return .part (.bare contents)
    | some (.plain '#') => noComment start
    | some (.plain '=') => return .part (← lookAhead n mode start false)
    | some (.plain '!') => return .part (← lookAhead n mode start true)
    | some (.plain '<') =>
      match ← next with
      | none => fault .unexpectedEnd 0
      | some (.plain '=') => return .part (← lookBehind n mode start false)
      | some (.plain '!') => return .part (← lookBehind n mode start true)
      | some t => fault (.unknownExtension ('<' :: t.text)) (t.text.length + 2)
    | some (.plain '(') => return .part (← condition n mode start)
    | some (.plain '>') =>
      let contents ← alternation n mode false
      closeBracket start
      return .part (.whole (.atomic (Piece.nodeOf mode contents)) (Piece.widthOf contents))
    | some t =>
      if t = .plain '-' || (flagOfToken? t).isSome then
        match ← flagGroup (flagOfToken? t) with
        | .wholePattern on =>
          modify fun s => { s with mode := s.mode.switchAll true on }
          if !first then faultAt .lateGlobalFlags start
          return .switched (← get).mode
        | .part on off =>
          let inner := mode.within on off
          let contents ← alternation n inner false
          closeBracket start
          return .part (.whole (Piece.nodeOf inner contents) (Piece.widthOf contents))
      else
        fault (.unknownExtension t.text) (t.text.length + 1)

def capturing : Nat → Mode → Nat → Option (List Char) → Reader Piece
  | 0, _, _, _ => exhausted
  | n + 1, mode, start, label => do
    let number ← openGroup label
    let contents ← alternation n mode false
    closeBracket start
    let width := Piece.widthOf contents
    closeGroup number width
    return .whole (.group number (Piece.nodeOf mode contents)) width

def lookAhead : Nat → Mode → Nat → Bool → Reader Piece
  | 0, _, _, _ => exhausted
  | n + 1, mode, start, negated => do
    let contents ← alternation n mode false
    closeBracket start
    return .whole (.ahead negated (Piece.nodeOf mode contents)) .zero

def lookBehind : Nat → Mode → Nat → Bool → Reader Piece
  | 0, _, _, _ => exhausted
  | n + 1, mode, start, negated => do
    let around := (← get).behindOpened
    modify fun s => { s with behindOpened := some (around.getD s.opened) }
    let contents ← alternation n mode false
    modify fun s => { s with behindOpened := around }
    closeBracket start
    let width := Piece.widthOf contents
    return .whole (.behind negated width (Piece.nodeOf mode contents)) .zero

def condition : Nat → Mode → Nat → Reader Piece
  | 0, _, _ => exhausted
  | n + 1, mode, start => do
    let number ← conditionGroup
    let yes ← sequence n mode false []
    let no ← if ← accept '|' then
        let no ← sequence n mode false []
        if (← peek) = some (.plain '|') then fault .thirdBranch 0
        pure (some no)
      else pure none
    closeBracket start
    let yesWidth := Piece.widthOf yes
    let width :=
      match no with
      | some no => yesWidth.either (Piece.widthOf no)
      | none => ⟨0, yesWidth.hi⟩
    return .whole
      (.ifGroup number (Piece.nodeOf mode yes) (Piece.nodeOf mode (no.getD []))) width

end

end Groups

end Reader

end Pattern
end CatalogScout
