import CatalogScout.Pattern.Star
import CatalogScout.Text.Utf8
import CatalogScout.Uri.Basic

/-!
Everything that can go wrong, by cause.  A failure has a kind, which names its class, and a
message; both are functions of the cause.  The written form of a failure, kind and quoted
message together, is what the report of a failed table carries.
-/

namespace CatalogScout

/-- The kinds of failure that may come from outside the library. -/
inductive Outage.Kind where
  | runtime
  | value
  | connection
  | permission
  | key
  | timeout
  | system
  | wrongType
  | attribute
  | notImplemented
  /-- The user stops the run.  No step recovers from this one. -/
  | interrupt
deriving DecidableEq, Repr

/-- A failure that the surroundings report. -/
structure Outage where
  kind : Outage.Kind
  message : Option String
deriving DecidableEq, Repr

inductive Failure where
  /-- A pattern of a selection, as written there, cannot be read. -/
  | badPattern (source : List Char) (fault : Pattern.Fault)
  /-- A token of a selection has no part. -/
  | emptyToken
  /-- A token of a selection has more than two parts. -/
  | crowdedToken (token : List Char)
  /-- Neither a database nor a whitelist is set. -/
  | noSelection
  | notAnAssignment (text : String)
  | assignmentWithoutKey (text : String)
  | notAnInteger (key value : String)
  | notABoolean (key value : String)
  /-- A file is not UTF-8. -/
  | undecodable (octets : List UInt8) (fault : Text.Utf8.Fault)
  | notATableName
  | badUri (fault : Uri.Fault)
  /-- A node does not lie in the store that was named for it. -/
  | outsideStore (node root : String)
  /-- An address without a scheme or without a path. -/
  | malformedUri (uri : String)
  | unknownScheme (scheme : String)
  | noStore (path : String)
  | rootNotADirectory (root : String)
  | poolTooSmall
  | poolExhausted (size : Nat)
  /-- A connection is refused. -/
  | unauthorized (message : String) (cause : Outage)
  /-- The catalog cannot be listed. -/
  | unlisted (cause : Failure)
  /-- A path that no file system takes. -/
  | pathWithNul
  | outage (outage : Outage)
deriving DecidableEq, Repr

open Text

namespace Outage

def Kind.name : Kind → String
  | .runtime => "RuntimeError"
  | .value => "ValueError"
  | .connection => "ConnectionError"
  | .permission => "PermissionError"
  | .key => "KeyError"
  | .timeout => "TimeoutError"
  | .system => "OSError"
  | .wrongType => "TypeError"
  | .attribute => "AttributeError"
  | .notImplemented => "NotImplementedError"
  | .interrupt => "KeyboardInterrupt"

/-- The text of an outage.  A missing key is shown in quotes. -/
def text (o : Outage) : String :=
  match o.message with
  | none => ""
  | some m => if o.kind = .key then quotedString m else m

def described (o : Outage) : String :=
  o.kind.name ++ "(" ++
    (match o.message with
      | none => ""
      | some m => quotedString m) ++ ")"

end Outage

namespace Failure

/-- The name of the kind of failure. -/
def kindName : Failure → String
  | .badPattern _ .countTooLarge => "OverflowError"
  | .emptyToken => "IndexError"
  | .undecodable _ _ => "UnicodeDecodeError"
  | .malformedUri _ => "MalformedConfigUriError"
  | .unknownScheme _ => "ConfigStoreFactoryDoesNotExistError"
  | .noStore _ => "ConfigStoreCreationError"
  | .rootNotADirectory _ => "ConfigStoreCreationError"
  | .poolExhausted _ => "PoolExhaustedError"
  | .unauthorized _ _ => "AuthError"
  | .unlisted _ => "DatasetDiscoveryError"
  | .outage o => o.kind.name
  | _ => "ValueError"

/-- A problem with a place in a pattern is told together with the pattern as it was written. -/
def patternMessage (source : List Char) (fault : Pattern.Fault) : String :=
  let told := fault.message (Pattern.starred source)
  match fault with
  | .countTooLarge => told
  | .countTooLong _ => told
  | .bothAlphabets => told
  | _ => "Invalid pattern '" ++ String.ofList source ++ "': " ++ told

def octetsMessage (octets : List UInt8) (fault : Utf8.Fault) : String :=
  let place :=
    if fault.stop = fault.start + 1 then
      "byte 0x" ++ String.ofList (hexText 2 (octets.getD fault.start 0).toNat) ++ " in position "
        ++ toString fault.start
    else "bytes in position " ++ toString fault.start ++ "-" ++ toString (fault.stop - 1)
  "'utf-8' codec can't decode " ++ place ++ ": " ++ fault.reason.message

def message : Failure → String
  | .badPattern source fault => patternMessage source fault
  | .emptyToken => "list index out of range"
  | .crowdedToken token =>
    "Invalid token '" ++ String.ofList token ++ "' (expected db or db.table)."
  | .noSelection => "Must specify hive.dataset.database or hive.dataset.whitelist."
  | .notAnAssignment text =>
    "Invalid property override: '" ++ text ++ "' (expected key=value)"
  | .assignmentWithoutKey text => "Invalid property override: '" ++ text ++ "' (empty key)"
  | .notAnInteger key value => "Config key '" ++ key ++ "' is not an integer: '" ++ value ++ "'"
  | .notABoolean key value => "Config key '" ++ key ++ "' is not a boolean: '" ++ value ++ "'"
  | .undecodable octets fault => octetsMessage octets fault
  | .notATableName => "Table must be in the form `db.table`."
  | .badUri fault => fault.message
  | .outsideStore node root =>
    quotedString node ++ " is not in the subpath of " ++ quotedString root
      ++ " OR one path is relative and the other is absolute."
  | .malformedUri uri => "Malformed config store URI: '" ++ uri ++ "'"
  | .unknownScheme scheme => "No config store factory for scheme '" ++ scheme ++ "'."
  | .noStore path =>
    "No config store found for '" ++ path ++ "' (missing _CONFIG_STORE marker)."
  | .rootNotADirectory root => "Config store root '" ++ root ++ "' is not a directory."
  | .poolTooSmall => "max_size must be >= 1"
  | .poolExhausted size => "All " ++ toString size ++ " metastore clients are in use."
  | .unauthorized message _ => message
  | .unlisted cause => "Failed to list catalog tables: " ++ cause.message
  | .pathWithNul => "embedded null byte"
  | .outage o => o.text

/-- Kind and quoted message.  Undecodable data is shown whole, with the place at fault. -/
def described : Failure → String
  | .undecodable octets fault =>
    "UnicodeDecodeError('utf-8', " ++ String.ofList (quotedOctets octets) ++ ", "
      ++ toString fault.start ++ ", " ++ toString fault.stop ++ ", "
      ++ quotedString fault.reason.message ++ ")"
  | .outage o => o.described
  | failure => failure.kindName ++ "(" ++ quotedString failure.message ++ ")"

/-- What a failure was raised from. -/
def cause? : Failure → Option Failure
  | .unauthorized _ cause => some (.outage cause)
  | .unlisted cause => some cause
  | _ => none

/-- The user stopped the run, so nothing may recover. -/
def stopsRun : Failure → Bool
  | .outage ⟨.interrupt, _⟩ => true
  | _ => false

/-- The failure is one of the values that were given. -/
def isBadValue : Failure → Bool
  | .undecodable _ _ => true
  | failure => failure.kindName == "ValueError"

/-- The failure is one of the system underneath. -/
def isSystemFailure : Failure → Bool
  | .outage ⟨kind, _⟩ =>
    match kind with
    | .connection | .permission | .timeout | .system => true
    | _ => false
  | _ => false

end Failure
end CatalogScout
