import CatalogScout.Text.Printable

/-!
Text and octets in quotation marks, as they are shown inside messages.  The mark is the single
one unless the text holds a single mark and no double one; the mark and the backslash are
escaped, and so is whatever is not printable.
-/

namespace CatalogScout
namespace Text

def hexDigit (n : Nat) : Char :=
  if n < 10 then Char.ofNat (0x30 + n) else Char.ofNat (0x57 + n)

/-- The last `width` hexadecimal digits of a number. -/
def hexText : Nat → Nat → List Char
  | 0, _ => []
  | width + 1, n => hexText width (n / 16) ++ [hexDigit (n % 16)]

def quoteMark (s : List Char) : Char :=
  if s.contains '\'' && !s.contains '"' then '"' else '\''

def escapeCode (n : Nat) : List Char :=
  if n < 0x100 then '\\' :: 'x' :: hexText 2 n
  else if n < 0x10000 then '\\' :: 'u' :: hexText 4 n
  else '\\' :: 'U' :: hexText 8 n

def quoteChar (mark c : Char) : List Char :=
  if c = mark || c = '\\' then ['\\', c]
  else if c = '\n' then ['\\', 'n']
  else if c = '\r' then ['\\', 'r']
  else if c = '\t' then ['\\', 't']
  else if isPrintable c then [c]
  else escapeCode c.toNat

def quoted (s : List Char) : List Char :=
  let mark := quoteMark s
  mark :: (s.flatMap (quoteChar mark) ++ [mark])

def quotedString (s : String) : String := String.ofList (quoted s.toList)

/-- An octet is shown as its ASCII character where that is visible. -/
def quoteOctet (mark : Char) (b : UInt8) : List Char :=
  let c := Char.ofNat b.toNat
  if c = mark || c = '\\' then ['\\', c]
  else if c = '\n' then ['\\', 'n']
  else if c = '\r' then ['\\', 'r']
  else if c = '\t' then ['\\', 't']
  else if 0x20 ≤ b.toNat && b.toNat < 0x7f then [c]
  else '\\' :: 'x' :: hexText 2 b.toNat

/-- Octets are quoted as text is, behind the letter b. -/
def quotedOctets (octets : List UInt8) : List Char :=
  let mark := quoteMark (octets.map fun b => Char.ofNat b.toNat)
  'b' :: mark :: (octets.flatMap (quoteOctet mark) ++ [mark])

end Text
end CatalogScout
