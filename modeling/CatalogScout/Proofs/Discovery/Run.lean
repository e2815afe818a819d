import CatalogScout.Commands.Session

/-!
What the steps of a run do to the world.

A run is a function of the world, so every step has an equation: the answer, and the world after
it.  Proofs about whole runs rewrite with these equations and open no step again.
-/

namespace CatalogScout
namespace Discovery

open Commands

variable {State Handle α β : Type}

/-! ## What a trace holds -/

@[simp]
theorem eventsOf_append (a b : List Action) : eventsOf (a ++ b) = eventsOf a ++ eventsOf b :=
  List.filterMap_append

@[simp]
theorem requestsOf_append (a b : List Action) :
    requestsOf (a ++ b) = requestsOf a ++ requestsOf b :=
  List.filterMap_append

@[simp]
theorem eventsOf_logs (records : List LogRecord) : eventsOf (records.map .log) = [] := by
  induction records with
  | nil => rfl
  | cons r rest ih => exact ih

@[simp]
theorem requestsOf_logs (records : List LogRecord) : requestsOf (records.map .log) = [] := by
  induction records with
  | nil => rfl
  | cons r rest ih => exact ih

@[simp]
theorem eventsOf_requests (requests : List Request) : eventsOf (requests.map .request) = [] := by
  induction requests with
  | nil => rfl
  | cons r rest ih => exact ih

@[simp]
theorem requestsOf_requests (requests : List Request) :
    requestsOf (requests.map .request) = requests := by
  induction requests with
  | nil => rfl
  | cons r rest ih => exact congrArg (r :: ·) ih

@[simp]
theorem after_nil (w : World State) : w.after [] = w := by
  cases w
  simp [World.after]

@[simp]
theorem after_after (w : World State) (a b : List Action) :
    (w.after a).after b = w.after (a ++ b) := by
  simp [World.after]

@[simp]
theorem pool_after (w : World State) (actions : List Action) : (w.after actions).pool = w.pool :=
  rfl

@[simp]
theorem trace_after (w : World State) (actions : List Action) :
    (w.after actions).trace = w.trace ++ actions :=
  rfl

/-! ## Sequencing -/

theorem bind_of_ok {x : Run State α} {w w' : World State} {a : α} (h : x w = .ok a w')
    (rest : α → Run State β) : (x >>= rest) w = rest a w' := by
  show EStateM.bind x rest w = _
  simp only [EStateM.bind, h]

theorem bind_of_error {x : Run State α} {w w' : World State} {failure : Failure}
    (h : x w = .error failure w') (rest : α → Run State β) :
    (x >>= rest) w = .error failure w' := by
  show EStateM.bind x rest w = _
  simp only [EStateM.bind, h]

/-- If a sequence comes to an end, so did its first part. -/
theorem exists_of_bind_ok {x : Run State α} {rest : α → Run State β} {w w' : World State} {b : β}
    (h : (x >>= rest) w = .ok b w') : ∃ a w₁, x w = .ok a w₁ ∧ rest a w₁ = .ok b w' := by
  cases hx : x w with
  | ok a w₁ =>
    rw [bind_of_ok hx] at h
    exact ⟨a, w₁, rfl, h⟩
  | error failure w₁ =>
    rw [bind_of_error hx] at h
    cases h

theorem request_ok {answer : Except Failure α} {a : α} (h : answer = .ok a) (r : Request)
    (w : World State) : request r answer w = .ok a (w.after [.request r]) := by
  subst h
  rfl

theorem request_error {answer : Except Failure α} {failure : Failure}
    (h : answer = .error failure) (r : Request) (w : World State) :
    request r answer w = .error failure (w.after [.request r]) := by
  subst h
  rfl

/-! ## Events -/

/-- The sink keeps the event. -/
def keeps (sink : EventSink) (e : Event) : Bool :=
  match sink e with
  | .kept => true
  | _ => false

@[simp]
theorem eventsOf_events (events : List Event) : eventsOf (events.map .event) = events := by
  induction events with
  | nil => rfl
  | cons e rest ih => exact congrArg (e :: ·) ih

@[simp]
theorem requestsOf_events (events : List Event) : requestsOf (events.map .event) = [] := by
  induction events with
  | nil => rfl
  | cons e rest ih => exact ih

/-! ## Clients -/

/-- What taking a client now comes to. -/
def clientNow (scene : Scene State Handle) (pool : Pool Connection) : Except Failure Connection :=
  (pool.take fun n => (scene.connect n).client).1

/-- The world while a client is out. -/
def lent (scene : Scene State Handle) (w : World State) : World State :=
  { w.after (takingActions scene w.pool) with
    pool := (w.pool.take fun n => (scene.connect n).client).2 }

theorem takeClient_ok {scene : Scene State Handle} {w : World State} {client : Connection}
    (h : clientNow scene w.pool = .ok client) :
    takeClient scene w = .ok client (lent scene w) := by
  unfold clientNow at h
  simp only [takeClient, h]
  rfl

theorem takeClient_error {scene : Scene State Handle} {w : World State} {failure : Failure}
    (h : clientNow scene w.pool = .error failure) :
    takeClient scene w = .error failure (lent scene w) := by
  unfold clientNow at h
  simp only [takeClient, h]
  rfl

theorem withClient_without {scene : Scene State Handle} {w : World State} {failure : Failure}
    (h : clientNow scene w.pool = .error failure) (body : Connection → Run State α) :
    withClient scene body w = .error failure (lent scene w) := by
  simp only [withClient, takeClient_error h]

theorem withClient_ok {scene : Scene State Handle} {w w' : World State} {client : Connection}
    {body : Connection → Run State α} {a : α} (h : clientNow scene w.pool = .ok client)
    (hbody : body client (lent scene w) = .ok a w') :
    withClient scene body w = .ok a (w'.giveBack client) := by
  simp only [withClient, takeClient_ok h, hbody]

theorem withClient_error {scene : Scene State Handle} {w w' : World State}
    {client : Connection} {body : Connection → Run State α} {failure : Failure}
    (h : clientNow scene w.pool = .ok client)
    (hbody : body client (lent scene w) = .error failure w') :
    withClient scene body w = .error failure (w'.giveBack client) := by
  simp only [withClient, takeClient_ok h, hbody]

@[simp]
theorem trace_giveBack (client : Connection) (w : World State) :
    (w.giveBack client).trace = w.trace :=
  rfl

@[simp]
theorem trace_lent (scene : Scene State Handle) (w : World State) :
    (lent scene w).trace = w.trace ++ takingActions scene w.pool :=
  rfl

/-- Making a client submits no event. -/
@[simp]
theorem eventsOf_takingActions (scene : Scene State Handle) (pool : Pool Connection) :
    eventsOf (takingActions scene pool) = [] := by
  unfold takingActions
  split
  · exact eventsOf_requests _
  · rfl

/-! ## An idle client

A pool with an idle client hands it out without asking anybody, and has it back as the next one.
So a run of blocks one after another works with one client, and the pool stays as it was. -/

section Idle

variable {scene : Scene State Handle} {w : World State} {client : Connection}
  {others : List Connection}

theorem clientNow_of_idle (h : w.pool.idle = client :: others) :
    clientNow scene w.pool = .ok client := by
  rw [clientNow, Pool.take_of_idle _ h]

/-- Only the pool changes while an idle client is out. -/
theorem lent_of_idle (h : w.pool.idle = client :: others) :
    lent scene w
      = { w with pool := { w.pool with idle := others, inUse := w.pool.inUse + 1 } } := by
  have hasks : w.pool.asks = false := by simp [Pool.asks, h]
  simp [lent, Pool.take_of_idle _ h, takingActions, hasks]

/-- A pool that lent its idle client and has it back is the pool it was. -/
theorem giveBack_of_idle (h : w.pool.idle = client :: others) :
    Pool.giveBack client { w.pool with idle := others, inUse := w.pool.inUse + 1 } = w.pool := by
  rw [Pool.giveBack, Nat.add_sub_cancel, ← h]

end Idle

end Discovery
end CatalogScout
