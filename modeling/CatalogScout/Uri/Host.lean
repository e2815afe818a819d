import CatalogScout.Text.Split

/-!
Host addresses that may stand in square brackets: addresses of version six, with an optional
zone behind a percent sign, and addresses of a version yet to come.
-/

namespace CatalogScout
namespace Uri

open Text

def isHexDigit (c : Char) : Bool := c.isDigit || ('a' ≤ c && c ≤ 'f') || ('A' ≤ c && c ≤ 'F')

/-- One to three decimal digits without a needless zero in front, at most 255. -/
def isOctet (s : List Char) : Bool :=
  s.all Char.isDigit && s.length ≤ 3 &&
    match s with
    | [] => false
    | ['0'] => true
    | '0' :: _ => false
    | _ => s.foldl (fun n c => 10 * n + (c.toNat - '0'.toNat)) 0 ≤ 255

/-- Four octets between dots. -/
def isVersionFour (s : List Char) : Bool :=
  let parts := fields '.' s
  parts.length = 4 && parts.all isOctet

def isHextet (s : List Char) : Bool := !s.isEmpty && s.length ≤ 4 && s.all isHexDigit

/-- A version-four address at the end stands for two hextets.  There is none if the last part
has a dot and is no such address. -/
def hextetParts? (parts : List (List Char)) : Option (List (List Char)) :=
  match parts.getLast? with
  | none => none
  | some last =>
    if last.contains '.' then
      if isVersionFour last then some (parts.dropLast ++ [['0'], ['0']]) else none
    else some parts

/-- Eight hextets, or fewer around one double colon. -/
def areHextets (parts : List (List Char)) : Bool :=
  let inner := parts.tail.dropLast
  match inner.findIdx? List.isEmpty with
  | none => parts.length = 8 && parts.all isHextet
  | some i =>
    let before := parts.take (i + 1)
    let after := parts.drop (i + 2)
    let before := if before = [[]] then [] else before
    let after := if after = [[]] then [] else after
    before.length + after.length < 8 && before.all isHextet && after.all isHextet

def isVersionSix (s : List Char) : Bool :=
  let (address, zoneOk) :=
    match cutAt (· == '%') s with
    | none => (s, true)
    | some (address, zone) => (address, !zone.isEmpty && !zone.contains '%')
  let parts := fields ':' address
  zoneOk && 3 ≤ parts.length &&
    match hextetParts? parts with
    | none => false
    | some parts => parts.length ≤ 9 && areHextets parts

/-- A version in hexadecimal digits, a dot and something behind it; the letter in front of the
version is not part of the text. -/
def isFutureVersion (s : List Char) : Bool :=
  match cutAt (· == '.') s with
  | none => false
  | some (version, address) =>
    !version.isEmpty && version.all isHexDigit && !address.isEmpty && !address.contains '\n'

end Uri
end CatalogScout
