import CatalogScout.Catalog.Workspace
import CatalogScout.ConfigSource
import CatalogScout.Dataset
import CatalogScout.Event
import CatalogScout.Pool.Basic

/-!
What discovery runs in.

The scene is what does not change during a run: the catalogs, how clients are made, how
settings are looked up, how datasets are built and where events go.  The world is what does
change: the pool, the state of the lookup service, and a trace of everything that was done.
`withClient` is the only way to hold a client, and it gives the client back however its body
ends.
-/

namespace CatalogScout
namespace Discovery

/-- Something done that can be seen from outside. -/
inductive Action where
  | request (r : Request)
  | event (e : Event)
  | log (r : LogRecord)

/-- A new client, and what was asked for it. -/
structure Connecting where
  requests : List Request
  client : Except Failure Connection

structure Scene (State Handle : Type) where
  catalog : Connection → Catalog
  /-- What happens when a client is made, if that was tried so many times before. -/
  connect : Nat → Connecting
  service : ConfigService State
  build : Table → Settings → Except Failure (Dataset Handle)
  sink : EventSink

structure World (State : Type) where
  pool : Pool Connection
  config : State
  /-- From the first action to the last. -/
  trace : List Action

abbrev Run (State : Type) := EStateM Failure (World State)

variable {State Handle : Type} {α : Type}

def World.after (w : World State) (actions : List Action) : World State :=
  { w with trace := w.trace ++ actions }

def perform (action : Action) : Run State Unit := fun w => .ok () (w.after [action])

def log (record : LogRecord) : Run State Unit := perform (.log record)

/-- Take an answer, which may be a failure. -/
def accept : Except Failure α → Run State α
  | .ok a => pure a
  | .error failure => throw failure

/-- Make a request and take its answer. -/
def request (r : Request) (answer : Except Failure α) : Run State α := do
  perform (.request r)
  accept answer

/-- Hand an event to the sink. -/
def submit (sink : EventSink) (e : Event) : Run State Unit :=
  match sink e with
  | .kept => perform (.event e)
  | .dropped => pure ()
  | .refused failure => throw failure

/-- The actions of taking a client from a pool. -/
def takingActions (scene : Scene State Handle) (pool : Pool Connection) : List Action :=
  if pool.asks then (scene.connect pool.asked).requests.map .request else []

def takeClient (scene : Scene State Handle) : Run State Connection := fun w =>
  let taken := w.pool.take fun n => (scene.connect n).client
  let w' := { w.after (takingActions scene w.pool) with pool := taken.2 }
  match taken.1 with
  | .ok client => .ok client w'
  | .error failure => .error failure w'

def World.giveBack (client : Connection) (w : World State) : World State :=
  { w with pool := w.pool.giveBack client }

/-- Run a body with a client, which goes back to the pool however the body ends. -/
def withClient (scene : Scene State Handle) (body : Connection → Run State α) :
    Run State α := fun w =>
  match takeClient scene w with
  | .error failure w => .error failure w
  | .ok client w =>
    match body client w with
    | .ok a w => .ok a (w.giveBack client)
    | .error failure w => .error failure (w.giveBack client)

/-- The settings of a table. -/
def resolve (scene : Scene State Handle) (source : ConfigSource) (n : TableName) :
    Run State Settings := fun w =>
  let reply := source.resolve scene.service w.config n
  let w' := { w.after (reply.records.map .log) with config := reply.state }
  match reply.answer with
  | .ok settings => .ok settings w'
  | .error failure => .error failure w'

end Discovery
end CatalogScout
