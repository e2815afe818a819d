import CatalogScout.Pattern.Fault
import CatalogScout.Pattern.Node

/-!
Reading a pattern token by token.  A token is a character or a backslash with the character
behind it.  The token in front is always known to be whole: a backslash at the very end is
noticed as soon as the token before it has been taken.
-/

namespace CatalogScout
namespace Pattern

inductive Token where
  | plain (c : Char)
  | escaped (c : Char)
deriving DecidableEq, Repr

def Token.text : Token → List Char
  | .plain c => [c]
  | .escaped c => ['\\', c]

/-- Where the reader is, and what it knows of groups and global switches so far. -/
structure Cursor where
  size : Nat
  rest : List Char
  mode : Mode
  /-- Groups are numbered from one; this counts the opened ones. -/
  opened : Nat := 0
  /-- The closed groups with their widths. -/
  closed : List (Nat × Width) := []
  names : List (List Char × Nat) := []
  /-- Inside a look-behind: the groups opened before it. -/
  behindOpened : Option Nat := none
  /-- Groups that conditions ask for, with the place of the first mention, latest first. -/
  awaited : List (Nat × Nat) := []

abbrev Reader := StateT Cursor (Except Fault)

namespace Reader

def position : Reader Nat := do
  let s ← get
  return s.size - s.rest.length

def faultAt {α : Type} (problem : Problem) (place : Nat) : Reader α :=
  throw (.atPosition problem place)

/-- Report a problem noticed some characters after it began. -/
def fault {α : Type} (problem : Problem) (back : Nat) : Reader α := do
  faultAt problem ((← position) - back)

def tokenOf : List Char → Option Token
  | '\\' :: c :: _ => some (.escaped c)
  | c :: _ => some (.plain c)
  | [] => none

def peek : Reader (Option Token) := do
  return tokenOf (← get).rest

/-- Put the reader in front of `rest`, which must not be a lone backslash. -/
def moveTo (rest : List Char) : Reader Unit := do
  if rest = ['\\'] then
    faultAt .escapeAtEnd ((← get).size - 1)
  else
    modify fun s => { s with rest := rest }

/-- Take the token in front. -/
def next : Reader (Option Token) := do
  let rest := (← get).rest
  match tokenOf rest with
  | none => return none
  | some t =>
    moveTo (rest.drop t.text.length)
    return some t

/-- Take the character in front if it is the given one. -/
def accept (c : Char) : Reader Bool := do
  if (← peek) = some (.plain c) then
    let _ ← next
    return true
  else
    return false

/-- At most `n` plain characters of a class. -/
def takeWhileUpTo (ok : Char → Bool) : Nat → Reader (List Char)
  | 0 => return []
  | n + 1 => do
    match ← peek with
    | some (.plain c) =>
      if ok c then
        let _ ← next
        return c :: (← takeWhileUpTo ok n)
      else
        return []
    | _ => return []

/-- All plain characters of a class; there are at most as many as are left. -/
def takeWhile (ok : Char → Bool) : Reader (List Char) := do
  takeWhileUpTo ok (← get).rest.length

/-- A name up to its closing character, which is taken too. -/
def nameUntil (closer : Char) (what : String) : Nat → List Char → Reader (List Char)
  | 0, name => fault (.unterminatedName closer) name.length
  | n + 1, name => do
    match ← next with
    | none =>
      if name.isEmpty then fault (.missingName what) 0
      else fault (.unterminatedName closer) name.length
    | some t =>
      if t = .plain closer then
        if name.isEmpty then fault (.missingName what) 1 else return name
      else
        nameUntil closer what n (name ++ t.text)

def name (closer : Char) (what : String) : Reader (List Char) := do
  nameUntil closer what ((← get).rest.length + 1) []

/-! ## Groups -/

def groupClosed (number : Nat) : Reader Bool := do
  return ((← get).closed.lookup number).isSome

def groupWidth (number : Nat) : Reader Width := do
  return ((← get).closed.lookup number).getD .zero

/-- Inside a look-behind, only groups closed before it may be referred to. -/
def checkBehind (number : Nat) : Reader Unit := do
  match (← get).behindOpened with
  | none => return
  | some before =>
    if !(← groupClosed number) then fault .openGroup 0
    else if before < number then fault .groupOfSameLookBehind 0

def openGroup (label : Option (List Char)) : Reader Nat := do
  let s ← get
  let number := s.opened + 1
  match label with
  | none => set { s with opened := number }
  | some label =>
    match s.names.lookup label with
    | some earlier => fault (.groupRedefined label number earlier) (label.length + 1)
    | none => set { s with opened := number, names := (label, number) :: s.names }
  return number

def closeGroup (number : Nat) (width : Width) : Reader Unit :=
  modify fun s => { s with closed := (number, width) :: s.closed }

end Reader

end Pattern
end CatalogScout
