import CatalogScout.Discovery.Run
import CatalogScout.Pool.Cache

/-!
Where the clients of a run come from.
-/

namespace CatalogScout
namespace Discovery

structure Supply where
  pool : Pool Connection
  connect : Nat → Connecting
  /-- What the log says of the supply being set up. -/
  records : List LogRecord

namespace Supply

/-- Copies of one client, for which nobody is asked. -/
def ofClient (pool : Pool Connection) (client : Connection) : Supply :=
  ⟨pool, fun _ => ⟨[], .ok client⟩, []⟩

/-- Clients of the endpoint that a job names, in a pool of the size that it names. -/
def ofJob (login : Login) (job : Settings) : Except Failure Supply := do
  let endpoint := Endpoint.ofJob job (job.get? Job.metastoreUriKey)
  let pool ← Job.pool job
  return ⟨pool, fun _ => ⟨endpoint.requests login, endpoint.client login⟩,
    [endpoint.poolRecord]⟩

end Supply
end Discovery
end CatalogScout
