import CatalogScout.Text.Quoted

/-!
What can be wrong with the text of a pattern, and how it is told.  Most problems are told with
the position in the pattern at which they were noticed, and with line and column too if the
pattern has several lines.
-/

namespace CatalogScout
namespace Pattern

open Text

/-- A problem with a place in the pattern.  Texts are quoted from the pattern as they stand. -/
inductive Problem where
  | escapeAtEnd
  | badEscape (escape : List Char)
  | incompleteEscape (escape : List Char)
  | octalTooLarge (escape : List Char)
  | missingBrace
  | missingName (what : String)
  | unterminatedName (closer : Char)
  | unknownCharacterName (name : List Char)
  | noSuchGroup (number : Nat)
  | openGroup
  | groupOfSameLookBehind
  | unterminatedSet
  | badRange (lo hi : List Char)
  | repeatBoundsReversed
  | nothingToRepeat
  | multipleRepeat
  | unexpectedEnd
  | badGroupName (name : List Char)
  | unknownGroupName (name : List Char)
  | groupRedefined (name : List Char) (number earlier : Nat)
  | badGroupNumber
  | unknownExtension (text : List Char)
  | unterminatedComment
  | unterminatedGroup
  | thirdBranch
  | lateGlobalFlags
  | localeFlag
  | exclusiveFlags
  | unknownFlag
  | expectedFlagEnd
  | expectedFlag
  | expectedColon
  | globalFlagOn
  | globalFlagOff
  | alphabetFlagOff
  | flagOnAndOff
  | unbalanced
deriving DecidableEq, Repr

inductive Fault where
  | atPosition (problem : Problem) (position : Nat)
  | variableLookBehind
  | lookBehindTooWide
  /-- A repetition count that is no machine number. -/
  | countTooLarge
  /-- A repetition count with more digits than are read. -/
  | countTooLong (digits : Nat)
  /-- Both alphabets are asked for at once. -/
  | bothAlphabets
deriving DecidableEq, Repr

def quotedText (s : List Char) : String := String.ofList (quoted s)

def Problem.message : Problem → String
  | .escapeAtEnd => "bad escape (end of pattern)"
  | .badEscape e => "bad escape " ++ String.ofList e
  | .incompleteEscape e => "incomplete escape " ++ String.ofList e
  | .octalTooLarge e => "octal escape value " ++ String.ofList e ++ " outside of range 0-0o377"
  | .missingBrace => "missing \x7b"
  | .missingName what => "missing " ++ what
  | .unterminatedName c => "missing " ++ String.singleton c ++ ", unterminated name"
  | .unknownCharacterName n => "undefined character name " ++ quotedText n
  | .noSuchGroup n => "invalid group reference " ++ toString n
  | .openGroup => "cannot refer to an open group"
  | .groupOfSameLookBehind => "cannot refer to group defined in the same lookbehind subpattern"
  | .unterminatedSet => "unterminated character set"
  | .badRange lo hi => "bad character range " ++ String.ofList lo ++ "-" ++ String.ofList hi
  | .repeatBoundsReversed => "min repeat greater than max repeat"
  | .nothingToRepeat => "nothing to repeat"
  | .multipleRepeat => "multiple repeat"
  | .unexpectedEnd => "unexpected end of pattern"
  | .badGroupName n => "bad character in group name " ++ quotedText n
  | .unknownGroupName n => "unknown group name " ++ quotedText n
  | .groupRedefined n number earlier =>
    "redefinition of group name " ++ quotedText n ++ " as group " ++ toString number
      ++ "; was group " ++ toString earlier
  | .badGroupNumber => "bad group number"
  | .unknownExtension text => "unknown extension ?" ++ String.ofList text
  | .unterminatedComment => "missing ), unterminated comment"
  | .unterminatedGroup => "missing ), unterminated subpattern"
  | .thirdBranch => "conditional backref with more than two branches"
  | .lateGlobalFlags => "global flags not at the start of the expression"
  | .localeFlag => "bad inline flags: cannot use 'L' flag with a str pattern"
  | .exclusiveFlags => "bad inline flags: flags 'a', 'u' and 'L' are incompatible"
  | .unknownFlag => "unknown flag"
  | .expectedFlagEnd => "missing -, : or )"
  | .expectedFlag => "missing flag"
  | .expectedColon => "missing :"
  | .globalFlagOn => "bad inline flags: cannot turn on global flag"
  | .globalFlagOff => "bad inline flags: cannot turn off global flag"
  | .alphabetFlagOff => "bad inline flags: cannot turn off flags 'a', 'u' and 'L'"
  | .flagOnAndOff => "bad inline flags: flag turned on and off"
  | .unbalanced => "unbalanced parenthesis"

/-- The line of a position, counted from one. -/
def lineAt (pattern : List Char) (position : Nat) : Nat :=
  (pattern.take position).count '\n' + 1

/-- The column of a position, counted from one. -/
def columnAt (pattern : List Char) (position : Nat) : Nat :=
  ((pattern.take position).reverse.takeWhile (· != '\n')).length + 1

def placeMessage (pattern : List Char) (position : Nat) : String :=
  " at position " ++ toString position ++
    if pattern.contains '\n' then
      " (line " ++ toString (lineAt pattern position) ++ ", column "
        ++ toString (columnAt pattern position) ++ ")"
    else ""

def Fault.message (pattern : List Char) : Fault → String
  | .atPosition problem position => problem.message ++ placeMessage pattern position
  | .variableLookBehind => "look-behind requires fixed-width pattern"
  | .lookBehindTooWide => "looks too much behind"
  | .countTooLarge => "the repetition number is too large"
  | .countTooLong digits =>
    "Exceeds the limit (4300 digits) for integer string conversion: value has "
      ++ toString digits
      ++ " digits; use sys.set_int_max_str_digits() to increase the limit"
  | .bothAlphabets => "ASCII and UNICODE flags are incompatible"

end Pattern
end CatalogScout
