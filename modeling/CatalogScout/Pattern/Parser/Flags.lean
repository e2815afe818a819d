import CatalogScout.Pattern.Parser.Cursor

/-!
Switches inside a pattern: `(?i)` for the whole of it, `(?i:...)` and `(?-i:...)` for a part.
-/

namespace CatalogScout
namespace Pattern

open Text

inductive Flag where
  | ignoreCase
  | locale
  | multiline
  | dotAll
  | verbose
  | ascii
  /-- Accepted for a whole pattern, and without effect. -/
  | idle
  | unicode
deriving DecidableEq, Repr

def Flag.ofLetter? : Char → Option Flag
  | 'i' => some .ignoreCase
  | 'L' => some .locale
  | 'm' => some .multiline
  | 's' => some .dotAll
  | 'x' => some .verbose
  | 'a' => some .ascii
  | 't' => some .idle
  | 'u' => some .unicode
  | _ => none

/-- The flag says which alphabet the categories speak of. -/
def Flag.isAlphabet : Flag → Bool
  | .ascii => true
  | .unicode => true
  | .locale => true
  | _ => false

def Mode.switch (on : Bool) (mode : Mode) : Flag → Mode
  | .ignoreCase => { mode with ignoreCase := on }
  | .multiline => { mode with multiline := on }
  | .dotAll => { mode with dotAll := on }
  | .verbose => { mode with verbose := on }
  | .ascii => { mode with ascii := on }
  | .unicode => { mode with unicode := on }
  | .locale => mode
  | .idle => mode

def Mode.switchAll (on : Bool) (mode : Mode) (flags : List Flag) : Mode :=
  flags.foldl (Mode.switch on) mode

/-- The mode of a part: naming an alphabet replaces the one around. -/
def Mode.within (mode : Mode) (on off : List Flag) : Mode :=
  let mode :=
    if on.any Flag.isAlphabet then { mode with ascii := false, unicode := false } else mode
  (mode.switchAll true on).switchAll false off

inductive FlagGroup where
  | wholePattern (on : List Flag)
  | part (on off : List Flag)

namespace Reader

def isLetterToken : Token → Bool
  | .plain c => isLetterCode c.toNat
  | .escaped _ => false

def flagOfToken? : Token → Option Flag
  | .plain c => Flag.ofLetter? c
  | .escaped _ => none

/-- The flags from `flag` on that are switched on, and the character behind them. -/
def flagsOn : Nat → List Flag → Flag → Reader (List Flag × Char)
  | 0, _, _ => fault .expectedFlagEnd 0
  | n + 1, on, flag => do
    if flag = .locale then fault .localeFlag 0
    let on := flag :: on
    if flag.isAlphabet && on.any (fun f => f.isAlphabet && f != flag) then
      fault .exclusiveFlags 0
    match ← next with
    | none => fault .expectedFlagEnd 0
    | some t =>
      match t with
      | .plain ')' => return (on, ')')
      | .plain '-' => return (on, '-')
      | .plain ':' => return (on, ':')
      | _ =>
        match flagOfToken? t with
        | some flag => flagsOn n on flag
        | none =>
          fault (if isLetterToken t then .unknownFlag else .expectedFlagEnd) t.text.length

/-- The flags from `flag` on that are switched off, up to the colon. -/
def flagsOff : Nat → List Flag → Flag → Reader (List Flag)
  | 0, _, _ => fault .expectedColon 0
  | n + 1, off, flag => do
    if flag.isAlphabet then fault .alphabetFlagOff 0
    let off := flag :: off
    match ← next with
    | none => fault .expectedColon 0
    | some t =>
      if t = .plain ':' then return off
      match flagOfToken? t with
      | some flag => flagsOff n off flag
      | none => fault (if isLetterToken t then .unknownFlag else .expectedColon) t.text.length

def flagsAfterMinus (on : List Flag) : Reader FlagGroup := do
  let bound := (← get).rest.length + 1
  match ← next with
  | none => fault .expectedFlag 0
  | some t =>
    match flagOfToken? t with
    | none => fault (if isLetterToken t then .unknownFlag else .expectedFlag) t.text.length
    | some flag =>
      let off ← flagsOff bound [] flag
      if off.contains .idle then fault .globalFlagOff 1
      if on.any off.contains then fault .flagOnAndOff 1
      return .part on off

/-- The switches of a group whose first letter, or minus sign, has been taken. -/
def flagGroup (first : Option Flag) : Reader FlagGroup := do
  match first with
  | none => flagsAfterMinus []
  | some flag =>
    let (on, closer) ← flagsOn ((← get).rest.length + 1) [] flag
    if closer = ')' then return .wholePattern on
    if on.contains .idle then fault .globalFlagOn 1
    if closer = '-' then flagsAfterMinus on else return .part on []

end Reader

end Pattern
end CatalogScout
