import CatalogScout.Connection
import CatalogScout.Job
import CatalogScout.LogRecord
import CatalogScout.Pool.Basic

/-!
Pools that are shared by all who work against one endpoint: a profile, the address of a
metastore and a catalog.
-/

namespace CatalogScout

structure Endpoint where
  profile : Option String
  uri : Option String
  catalog : String
deriving DecidableEq, Repr

namespace Endpoint

def ofJob (s : Settings) (uri : Option String) : Endpoint where
  profile := Job.nonEmpty? s Settings.profileKey
  uri := uri
  catalog := (Job.nonEmpty? s Job.catalogKey).getD Connection.defaultCatalog

def described (e : Endpoint) : String :=
  "(profile=" ++ e.profile.getD "None" ++ ", uri=" ++ e.uri.getD "None" ++ ", catalog="
    ++ e.catalog ++ ")"

/-- The record of a pool being made for the endpoint. -/
def poolRecord (e : Endpoint) : LogRecord :=
  .debug ("Creating metastore client pool " ++ e.described)

/-- What connecting to the endpoint asks for. -/
def requests (login : Login) (e : Endpoint) : List Request :=
  (Connection.connect login e.profile e.uri).requests

/-- A new client of the endpoint. -/
def client (login : Login) (e : Endpoint) : Except Failure Connection :=
  (Connection.connect login e.profile e.uri).host.map fun host => ⟨e.profile, host, e.catalog⟩

end Endpoint

namespace Job

def defaultPoolSize : Int := 8

def pool (s : Settings) : Except Failure (Pool Connection) := do
  Pool.ofSize (← s.integer poolSizeKey defaultPoolSize)

end Job

/-- Pools by endpoint, in the order in which they were made.  A pool is known by its place. -/
structure PoolCache where
  pools : List (Endpoint × Pool Connection)

namespace PoolCache

def empty : PoolCache := ⟨[]⟩

def find? (c : PoolCache) (e : Endpoint) : Option Nat := c.pools.findIdx? fun p => p.1 == e

def pool? (c : PoolCache) (place : Nat) : Option (Pool Connection) :=
  (c.pools[place]?).map (·.2)

/-- The place of the pool for a job and an address, which is made now unless it is there. -/
def get (c : PoolCache) (s : Settings) (uri : Option String) :
    Except Failure Nat × List LogRecord × PoolCache :=
  let endpoint := Endpoint.ofJob s uri
  match c.find? endpoint with
  | some place => (.ok place, [], c)
  | none =>
    match Job.pool s with
    | .error failure => (.error failure, [endpoint.poolRecord], c)
    | .ok pool =>
      (.ok c.pools.length, [endpoint.poolRecord], ⟨c.pools ++ [(endpoint, pool)]⟩)

def modify (c : PoolCache) (place : Nat) (f : Pool Connection → Pool Connection) : PoolCache :=
  ⟨c.pools.modify place fun (e, p) => (e, f p)⟩

/-- What a client taken from a pool is, and what was asked for it. -/
structure Taken where
  client : Except Failure Connection
  requests : List Request
  cache : PoolCache

/-- Take a client from the pool at a place. -/
def take? (login : Login) (c : PoolCache) (place : Nat) : Option Taken :=
  (c.pools[place]?).map fun (endpoint, pool) =>
    let (client, pool') := pool.take fun _ => endpoint.client login
    ⟨client, if pool.asks then endpoint.requests login else [],
      c.modify place fun _ => pool'⟩

def giveBack (c : PoolCache) (place : Nat) (client : Connection) : PoolCache :=
  c.modify place (Pool.giveBack client)

end PoolCache
end CatalogScout
