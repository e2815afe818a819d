import CatalogScout.Failure
import CatalogScout.Text.Blank
import CatalogScout.Text.Split

/-!
Connecting to a workspace.

A connection is asked for by profile and host.  The address of a host loses its query and the
slashes at its end, whether it was given or comes out of the profile.  A rejected login is
reported with advice on how to log in again, if the rejection asks for that.
-/

namespace CatalogScout

open Text

/-- What is asked of the workspace and of those who let one in. -/
inductive Request where
  | login (profile host : Option String)
  | workspace (host : Option String)
  | schemas (catalog : String)
  | tables (catalog db : String)
  | table (fullName : String)
deriving DecidableEq, Repr

/-- The host that a profile and a host lead to. -/
abbrev Login := (profile host : Option String) → Except Outage (Option String)

/-- A client of one catalog. -/
structure Connection where
  profile : Option String
  host : Option String
  catalog : String
deriving DecidableEq, Repr

namespace Connection

def defaultCatalog : String := "hive_metastore"

def sanitizeHost (host : String) : String :=
  String.ofList (dropTrailing '/' (upTo '?' host.toList))

/-- A value that is given and not empty. -/
def given? (s : Option String) : Option String := s.filter fun s => !s.isEmpty

def loginPhrase : List Char := "databricks auth login ".toList

/-- The text has the login phrase with a word behind it. -/
def asksForLogin : List Char → Bool
  | [] => false
  | c :: r =>
    (match dropBeginning loginPhrase (c :: r) with
      | some (d :: _) => !isBlank d
      | _ => false) || asksForLogin r

/-- What is said about a rejected login. -/
def rejection (message : String) (profile : Option String) : String :=
  if asksForLogin message.toList then
    "Databricks authentication failed. Your refresh token is invalid.\n"
      ++ "Re-authenticate with:\n  $ databricks auth login"
      ++ (match given? profile with
        | none => ""
        | some name => " --profile " ++ name)
  else "Databricks authentication failed: " ++ message

/-- What a login that failed is reported as: a bad value means that it was rejected. -/
def loginFailure (profile : Option String) (o : Outage) : Failure :=
  if o.kind = .value then .unauthorized (rejection o.text profile) o else .outage o

/-- The host connected to, and what was asked on the way. -/
structure Attempt where
  requests : List Request
  host : Except Failure (Option String)

def connect (login : Login) (profile host : Option String) : Attempt :=
  let profile := given? profile
  let host := (given? host).map sanitizeHost
  match login profile host with
  | .error o => ⟨[.login profile host], .error (loginFailure profile o)⟩
  | .ok answer =>
    let host' := answer.map sanitizeHost
    ⟨[.login profile host, .workspace host'], .ok host'⟩

end Connection
end CatalogScout
