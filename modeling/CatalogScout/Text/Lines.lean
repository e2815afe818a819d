/-!
Text files as lines.  A file's line ends are unified first, so a carriage return never survives
into a line; the text is then cut at every line boundary of Unicode, of which the line feed is
only one.
-/

namespace CatalogScout
namespace Text

/-- A carriage return, with or without a line feed behind it, becomes one line feed. -/
def unifyNewlines : List Char → List Char
  | [] => []
  | '\r' :: '\n' :: r => '\n' :: unifyNewlines r
  | '\r' :: r => '\n' :: unifyNewlines r
  | c :: r => c :: unifyNewlines r

/-- The characters that end a line: line feed, vertical tab, form feed, carriage return, the
separators U+001C to U+001E, next line, line separator and paragraph separator. -/
def lineEnds : List Char :=
  ['\n', '\x0b', '\x0c', '\r', '\x1c', '\x1d', '\x1e', '\u0085', '\u2028', '\u2029']

def isLineEnd (c : Char) : Bool := lineEnds.contains c

/-- The lines of a text without their ends.  A line end at the very end of the text starts no
further line. -/
def lines : List Char → List (List Char)
  | [] => []
  | '\r' :: '\n' :: r => [] :: lines r
  | c :: r =>
    if isLineEnd c then [] :: lines r
    else
      match lines r with
      | [] => [[c]]
      | l :: ls => (c :: l) :: ls

end Text
end CatalogScout
