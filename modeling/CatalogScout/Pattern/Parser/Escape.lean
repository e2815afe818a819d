import CatalogScout.Pattern.Parser.Cursor
import CatalogScout.Text.CharacterNames

/-!
What a backslash and the character behind it mean, outside and inside a set.
-/

namespace CatalogScout
namespace Pattern

open Text

inductive Escape where
  | code (c : Nat)
  | category (kind : Category) (negated : Bool)
  | anchor (place : Anchor)
  | group (number : Nat)
deriving DecidableEq, Repr

def isOctalDigit (c : Char) : Bool := '0' ≤ c && c ≤ '7'

def isHexDigit (c : Char) : Bool :=
  '0' ≤ c && c ≤ '9' || 'a' ≤ c && c ≤ 'f' || 'A' ≤ c && c ≤ 'F'

def hexValue (c : Char) : Nat :=
  if '0' ≤ c && c ≤ '9' then c.toNat - 0x30
  else if 'a' ≤ c && c ≤ 'f' then c.toNat - 0x57
  else c.toNat - 0x37

def numberOf (base : Nat) (digits : List Char) : Nat :=
  digits.foldl (fun n c => base * n + hexValue c) 0

def isAsciiLetter (c : Char) : Bool := isAsciiLetterCode c.toNat

def isDigitChar (c : Char) : Bool := isAsciiDigit c.toNat

/-- The control characters that have a letter. -/
def controlEscape? : Char → Option Nat
  | 'a' => some 7
  | 'f' => some 12
  | 'n' => some 10
  | 'r' => some 13
  | 't' => some 9
  | 'v' => some 11
  | '\\' => some 0x5c
  | _ => none

def categoryEscape? : Char → Option (Category × Bool)
  | 'd' => some (.digit, false)
  | 'D' => some (.digit, true)
  | 's' => some (.space, false)
  | 'S' => some (.space, true)
  | 'w' => some (.word, false)
  | 'W' => some (.word, true)
  | _ => none

def anchorEscape? : Char → Option Anchor
  | 'A' => some .textStart
  | 'Z' => some .textEnd
  | 'b' => some .boundary
  | 'B' => some .noBoundary
  | _ => none

namespace Reader

/-- A character by exactly so many hexadecimal digits. -/
def hexEscape (letter : Char) (digits : Nat) : Reader Nat := do
  let hex ← takeWhileUpTo isHexDigit digits
  let escape := '\\' :: letter :: hex
  if hex.length != digits then fault (.incompleteEscape escape) escape.length
  let code := numberOf 16 hex
  if 0x110000 ≤ code then fault (.badEscape escape) escape.length
  return code

/-- A character by name, in braces. -/
def namedEscape [CharacterNames] : Reader Nat := do
  if !(← accept '\x7b') then fault .missingBrace 0
  let name ← name '\x7d' "character name"
  match CharacterNames.named name with
  | some c => return c.toNat
  | none => fault (.unknownCharacterName name) (name.length + 4)

def checkOctal (escape : List Char) (code : Nat) : Reader Nat := do
  if 0xff < code then fault (.octalTooLarge escape) escape.length
  return code

/-- The escapes that mean the same inside and outside a set, if this is one of them. -/
def commonEscape [CharacterNames] (c : Char) : Reader (Option Nat) := do
  match c with
  | 'x' => return some (← hexEscape c 2)
  | 'u' => return some (← hexEscape c 4)
  | 'U' => return some (← hexEscape c 8)
  | 'N' => return some (← namedEscape)
  | _ => return none

def literalEscape (c : Char) : Reader Nat := do
  if isAsciiLetter c || isDigitChar c then fault (.badEscape ['\\', c]) 2
  return c.toNat

def escapeInSet [CharacterNames] (c : Char) : Reader Escape := do
  if c = 'b' then return .code 8
  if let some code := controlEscape? c then return .code code
  if let some (kind, negated) := categoryEscape? c then return .category kind negated
  if let some code ← commonEscape c then return .code code
  if isOctalDigit c then
    let digits := c :: (← takeWhileUpTo isOctalDigit 2)
    return .code (← checkOctal ('\\' :: digits) (numberOf 8 digits))
  return .code (← literalEscape c)

/-- A number behind a backslash is an octal code if it has three octal digits, and otherwise
refers to a group. -/
def numberEscape (c : Char) : Reader Escape := do
  let second ← takeWhileUpTo isDigitChar 1
  let octal := isOctalDigit c && second.all isOctalDigit && !second.isEmpty
  let third ← if octal then takeWhileUpTo isOctalDigit 1 else pure []
  if !third.isEmpty then
    let digits := c :: second ++ third
    return .code (← checkOctal ('\\' :: digits) (numberOf 8 digits))
  let number := numberOf 10 (c :: second)
  let length := 2 + second.length
  if (← get).opened < number then fault (.noSuchGroup number) (length - 1)
  if !(← groupClosed number) then fault .openGroup length
  checkBehind number
  return .group number

def escapeOutside [CharacterNames] (c : Char) : Reader Escape := do
  if let some (kind, negated) := categoryEscape? c then return .category kind negated
  if let some place := anchorEscape? c then return .anchor place
  if let some code := controlEscape? c then return .code code
  if let some code ← commonEscape c then return .code code
  if c = '0' then
    return .code (numberOf 8 (← takeWhileUpTo isOctalDigit 2))
  if isDigitChar c then return ← numberEscape c
  return .code (← literalEscape c)

end Reader

end Pattern
end CatalogScout
