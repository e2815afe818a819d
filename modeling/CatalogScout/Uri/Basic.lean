import CatalogScout.Text.Case
import CatalogScout.Text.Quoted
import CatalogScout.Uri.Host

/-!
Addresses of stores and nodes.  Of an address the scheme and the path are used; the authority
between them is only checked.
-/

namespace CatalogScout

structure Uri where
  /-- In lower case, and empty if there is none. -/
  scheme : List Char
  authority : List Char
  /-- Without parameters, query and fragment. -/
  path : List Char
deriving DecidableEq, Repr

namespace Uri

open Text

/-- What can be wrong with the authority of an address. -/
inductive Fault where
  | brackets
  | futureVersion
  | unknownHost (host : List Char)
  | versionFourInBrackets
  | foreignSeparator (authority : List Char)
deriving DecidableEq, Repr

def Fault.message : Fault → String
  | .brackets => "Invalid IPv6 URL"
  | .futureVersion => "IPvFuture address is invalid"
  | .unknownHost host =>
    String.ofList (quoted host) ++ " does not appear to be an IPv4 or IPv6 address"
  | .versionFourInBrackets => "An IPv4 address cannot be in brackets"
  | .foreignSeparator authority =>
    "netloc '" ++ String.ofList authority
      ++ "' contains invalid characters under NFKC normalization"

/-- Characters that compatibility normalization turns into text with a separator in it. -/
def foreignSeparators : List Nat :=
  [0x2047, 0x2048, 0x2049, 0x2100, 0x2101, 0x2105, 0x2106, 0x2a74, 0xfe13, 0xfe16, 0xfe55,
    0xfe56, 0xfe5f, 0xfe6b, 0xff03, 0xff0f, 0xff1a, 0xff1f, 0xff20]

/-- Schemes whose last path segment may carry parameters behind a semicolon. -/
def parameterSchemes : List String :=
  ["", "ftp", "hdl", "prospero", "http", "imap", "https", "shttp", "rtsp", "rtsps", "rtspu",
    "sip", "sips", "mms", "sftp", "tel"]

/-! ## The parts of an address -/

/-- Without control characters and blanks in front, and without tabs and line ends anywhere. -/
def cleaned (s : List Char) : List Char :=
  (s.dropWhile fun c => c.toNat ≤ 0x20).filter fun c => !(c = '\t' || c = '\r' || c = '\n')

def isSchemeChar (c : Char) : Bool :=
  isAsciiLetterCode c.toNat || c.isDigit || c = '+' || c = '-' || c = '.'

/-- The scheme before the first colon and the text behind it. -/
def cutScheme (s : List Char) : List Char × List Char :=
  match cutAt (· == ':') s with
  | some (c :: r, rest) =>
    if isAsciiLetterCode c.toNat && r.all isSchemeChar then
      ((c :: r).map fun c => Char.ofNat (lowerAsciiCode c.toNat), rest)
    else ([], s)
  | _ => ([], s)

/-- The authority behind two slashes, and the rest. -/
def cutAuthority : List Char → List Char × List Char
  | '/' :: '/' :: s =>
    let ends (c : Char) : Bool := c = '/' || c = '?' || c = '#'
    (s.takeWhile fun c => !ends c, s.dropWhile fun c => !ends c)
  | s => ([], s)

/-- The path without the parameters of its last segment. -/
def dropParameters (s : List Char) : List Char :=
  let last := behindLast '/' s
  s.take (s.length - last.length) ++ upTo ';' last

/-! ## The authority -/

def checkHost : List Char → Except Fault Unit
  | 'v' :: r => if isFutureVersion r then .ok () else .error .futureVersion
  | host =>
    if isVersionFour host then .error .versionFourInBrackets
    else if isVersionSix host then .ok ()
    else .error (.unknownHost host)

/-- Brackets stand around the whole host, with at most a colon and what follows it behind them.

The standard readers of addresses check this as of the releases 3.9.22, 3.10.17, 3.11.12, 3.12.9 and
3.13.2.  Older ones let text stand in front of the brackets and behind them, so they accept
`file://x[::1]/store`; all of them refuse a bracket without its partner. -/
def checkBrackets (authority : List Char) : Except Fault Unit :=
  if authority.contains '[' != authority.contains ']' then .error .brackets
  else if !authority.contains '[' then .ok ()
  else
    match cutAt (· == '[') (behindLast '@' authority) with
    | none => checkHost (upTo ':' (behindLast '@' authority))
    | some (before, bracketed) =>
      let rest := (bracketed.dropWhile (· != ']')).drop 1
      if !before.isEmpty || (!rest.isEmpty && rest.head? != some ':') then .error .brackets
      else checkHost (upTo ']' bracketed)

def checkSeparators (authority : List Char) : Except Fault Unit :=
  if authority.any fun c => foreignSeparators.contains c.toNat then
    .error (.foreignSeparator authority)
  else .ok ()

/-- Read an address. -/
def parse (s : List Char) : Except Fault Uri := do
  let (scheme, rest) := cutScheme (cleaned s)
  let (authority, rest) := cutAuthority rest
  checkBrackets authority
  checkSeparators authority
  let path := upTo '?' (upTo '#' rest)
  let path :=
    if parameterSchemes.contains (String.ofList scheme) then dropParameters path else path
  return { scheme, authority, path }

end Uri
end CatalogScout
