/-!
Console markup: text in which tags in square brackets switch styles.  A bracket behind an odd
number of backslashes opens no tag, and escaping makes sure that no bracket of a text opens one.
How a text is escaped is for the console to say, so whatever is written for it takes that as given;
`escape` is the way where no other is given.
-/

namespace CatalogScout
namespace Markup

/-- How a console wants texts escaped. -/
class Escaping where
  escape : List Char → List Char

/-- A character that a tag may begin with. -/
def isTagStart (c : Char) : Bool := ('a' ≤ c && c ≤ 'z') || c = '#' || c = '/' || c = '@'

/-- A text that goes on like a tag behind its opening bracket: the next bracket closes it. -/
def continuesTag : List Char → Bool
  | [] => false
  | c :: r => isTagStart c && (r.find? fun d => d = '[' || d = ']') == some ']'

/-- Escape what looks like a tag, behind a run of backslashes that has been read but not
written. -/
def escapeBehind : Nat → List Char → List Char
  | run, [] => List.replicate run '\\'
  | run, c :: r =>
    if c = '\\' then escapeBehind (run + 1) r
    else if c = '[' && continuesTag r then
      List.replicate (2 * run + 1) '\\' ++ '[' :: escapeBehind 0 r
    else List.replicate run '\\' ++ c :: escapeBehind 0 r

/-- Text that ends in one backslash alone. -/
def endsInBackslash (s : List Char) : Bool :=
  match s.reverse with
  | '\\' :: '\\' :: _ => false
  | '\\' :: _ => true
  | _ => false

/-- Markup that shows a text as it is.  A single backslash at its end is doubled, so that it
does not act on what is written behind it. -/
def escape (s : List Char) : List Char :=
  let escaped := escapeBehind 0 s
  if endsInBackslash escaped then escaped ++ ['\\'] else escaped

instance Escaping.standard : Escaping := ⟨Markup.escape⟩

def escaped [Escaping] (s : String) : String := String.ofList (Escaping.escape s.toList)

end Markup
end CatalogScout
