import CatalogScout.Proofs.Discovery.Visit

/-!
What becomes of each table that a listing found.

Making datasets uses one pool and one lookup service for all tables, so that tables are made
independently of each other has to be proved.  The pool has an idle client from the listing on,
so every table is made with that client, and the pool is the same again before the next one.  What
remains is what the table's own settings and the table's own description say.
-/

namespace CatalogScout
namespace Discovery

open Commands

variable {State Handle : Type}

/-! ## Outcomes -/

/-- What becomes of one table. -/
inductive Outcome (Handle : Type) where
  | found (dataset : Dataset Handle)
  | optedOut
  /-- The failure, and whether the table had been asked for by then. -/
  | failed (asked : Bool) (failure : Failure)

namespace Outcome

/-- The outcome of a table, from the answer of its own settings and the answer to the request for
its description. -/
def ofAnswers (handle : Handle) (job : Settings) (settings : Except Failure Settings)
    (table : Except Failure Table) : Outcome Handle :=
  match settings with
  | .error failure => .failed false failure
  | .ok settings =>
    match settings.boolean Finder.optOutKey false with
    | .error failure => .failed false failure
    | .ok true => .optedOut
    | .ok false =>
      match table with
      | .error failure => .failed true failure
      | .ok table => .found ⟨handle, table, job, settings⟩

def dataset? : Outcome Handle → Option (Dataset Handle)
  | .found dataset => some dataset
  | .optedOut => none
  | .failed _ _ => none

/-- The events that are submitted for a table with the outcome. -/
def events (n : TableName) : Outcome Handle → List Event
  | .found _ => [.found n]
  | .optedOut => []
  | .failed _ failure => [.failed n failure]

/-- The requests that are made for a table with the outcome. -/
def requests (client : Connection) (n : TableName) : Outcome Handle → List Request
  | .found _ => [.table (Workspace.fullName client.catalog n)]
  | .optedOut => []
  | .failed true _ => [.table (Workspace.fullName client.catalog n)]
  | .failed false _ => []

/-- Everything that is done for a table with the outcome, once its settings have been looked up. -/
def actions (sink : EventSink) (client : Connection) (n : TableName) (o : Outcome Handle) :
    List Action :=
  match o with
  | .found _ =>
    (o.requests client n).map .request ++ ((o.events n).filter (keeps sink)).map .event
  | .optedOut => [.log (.debug ("Skipping blacklisted dataset " ++ n.text))]
  | .failed _ _ =>
    (o.requests client n).map .request
      ++ .log (.error ("Failed to create HiveDataset for table " ++ n.text))
      :: ((o.events n).filter (keeps sink)).map .event

@[simp]
theorem eventsOf_actions (sink : EventSink) (client : Connection) (n : TableName)
    (o : Outcome Handle) :
    eventsOf (o.actions sink client n) = (o.events n).filter (keeps sink) := by
  cases o with
  | found dataset => rw [actions, eventsOf_append, eventsOf_requests, eventsOf_events]; rfl
  | optedOut => rfl
  | failed asked failure =>
    rw [actions, eventsOf_append, eventsOf_requests]
    exact eventsOf_events _

@[simp]
theorem requestsOf_actions (sink : EventSink) (client : Connection) (n : TableName)
    (o : Outcome Handle) : requestsOf (o.actions sink client n) = o.requests client n := by
  cases o with
  | found dataset =>
    rw [actions, requestsOf_append, requestsOf_requests, requestsOf_events, List.append_nil]
  | optedOut => rfl
  | failed asked failure =>
    rw [actions, requestsOf_append, requestsOf_requests]
    exact (congrArg _ (requestsOf_events _)).trans (List.append_nil _)

end Outcome

/-! ## Steady scenes -/

/-- What a run is sure of whatever its service is asked: datasets are built of what is known of
them, the sink refuses no event, and nothing that fails stops the run. -/
structure GoesOn (scene : Scene State Handle) (lookup : String → Except Failure Settings)
    (handle : Handle) (job : Settings) : Prop where
  builds : ∀ table settings, scene.build table settings = .ok ⟨handle, table, job, settings⟩
  receives : ∀ e failure, scene.sink e ≠ .refused failure
  lookups_go_on : ∀ uri failure, lookup uri = .error failure → failure.stopsRun = false
  tables_go_on : ∀ client n failure, (scene.catalog client).table n = .error failure →
    failure.stopsRun = false

/-- A run whose service also answers addresses by a function, at all times. -/
structure Steady (scene : Scene State Handle) (lookup : String → Except Failure Settings)
    (handle : Handle) (job : Settings) : Prop extends GoesOn scene lookup handle job where
  answers : ∀ state uri, (scene.service state uri).answer = lookup uri

section Steady

variable {scene : Scene State Handle} {lookup : String → Except Failure Settings}
  {handle : Handle} {job : Settings}

theorem Steady.answersBy (hs : Steady scene lookup handle job) (state : State) :
    AnswersBy scene.service lookup state := fun _ uri => hs.answers _ uri

theorem GoesOn.settings_go_on (hs : GoesOn scene lookup handle job) {source : ConfigSource}
    {n : TableName} {failure : Failure} (h : settingsBy lookup source n = .error failure) :
    failure.stopsRun = false := by
  unfold settingsBy at h
  cases hb : source.base with
  | job settings => rw [hb] at h; cases h
  | store root =>
    rw [hb] at h
    cases ha : lookup (ConfigSource.nodeUri root n) with
    | ok settings => simp only [ha] at h; cases h
    | error failure' =>
      simp only [ha] at h
      obtain rfl : failure' = failure := Except.error.inj h
      exact hs.lookups_go_on _ _ ha

end Steady

/-! ## One table -/

section Table

variable {f : Finder} {scene : Scene State Handle} {lookup : String → Except Failure Settings}
  {handle : Handle} {w : World State} {client : Connection} {others : List Connection}

/-- The outcome of a table that is made with a client. -/
def outcome (f : Finder) (scene : Scene State Handle) (lookup : String → Except Failure Settings)
    (handle : Handle) (client : Connection) (n : TableName) : Outcome Handle :=
  .ofAnswers handle f.job (settingsBy lookup f.source n) ((scene.catalog client).table n)

/-- The script of a visit is what the outcome of the table says. -/
theorem visitScript_eq (hs : GoesOn scene lookup handle f.job) (client : Connection)
    (n : TableName) :
    visitScript scene client n (settingsBy lookup f.source n)
      = ⟨.ok (outcome f scene lookup handle client n).dataset?,
          (outcome f scene lookup handle client n).actions scene.sink client n⟩ := by
  have hreceives := fun failure => hs.receives (.failed n failure)
  unfold outcome Outcome.ofAnswers visitScript
  cases hsettings : settingsBy lookup f.source n with
  | error failure => exact reported_of_received (hs.settings_go_on hsettings) (hreceives failure)
  | ok settings =>
    simp only [makingScript]
    cases hflag : settings.boolean Finder.optOutKey false with
    | error failure => exact reported_of_received (boolean_goes_on hflag) (hreceives failure)
    | ok optedOut =>
      cases optedOut with
      | true => rfl
      | false =>
        cases htable : (scene.catalog client).table n with
        | error failure =>
          exact reported_of_received (hs.tables_go_on client n failure htable) (hreceives failure)
        | ok table =>
          rw [deliveryScript_of_received (hs.builds table settings) (hs.receives (.found n))]
          rfl

/-- A visited table has its outcome, the pool is as it was, and no failure goes further. -/
theorem visit_of_idle (hs : GoesOn scene lookup handle f.job)
    (hanswers : AnswersBy scene.service lookup w.config)
    (hidle : w.pool.idle = client :: others) (n : TableName) :
    f.visit scene n w
      = .ok (outcome f scene lookup handle client n).dataset?
          ((resolved scene f.source n w).after
            ((outcome f scene lookup handle client n).actions scene.sink client n)) := by
  rw [visit_eq (clientNow_of_idle hidle), hanswers.answer_resolve, visitScript_eq hs,
    lookedUp_of_idle hidle]
  rfl

/-! ## All tables -/

/-- Visiting tables one after another gives each its outcome.  The induction carries the idle
client and the answers of the service from one table to the next. -/
theorem visitAll_of_answers (hs : GoesOn scene lookup handle f.job) (names : List TableName)
    (hanswers : AnswersBy scene.service lookup w.config)
    (hidle : w.pool.idle = client :: others) :
    ∃ w', f.visitAll scene names w
        = .ok (names.filterMap fun n => (outcome f scene lookup handle client n).dataset?) w' ∧
      w'.pool = w.pool ∧
      eventsOf w'.trace = eventsOf w.trace ++ (names.flatMap fun n =>
        ((outcome f scene lookup handle client n).events n).filter (keeps scene.sink)) ∧
      requestsOf w'.trace = requestsOf w.trace ++ (names.flatMap fun n =>
        (outcome f scene lookup handle client n).requests client n) := by
  induction names generalizing w with
  | nil => exact ⟨w, rfl, rfl, by simp, by simp⟩
  | cons n rest ih =>
    have hvisit := visit_of_idle hs hanswers hidle n
    obtain ⟨w', hrest, hpool, hevents, hrequests⟩ := ih
      (w := (resolved scene f.source n w).after
        ((outcome f scene lookup handle client n).actions scene.sink client n))
      (hanswers.resolve f.source n) hidle
    refine ⟨w', ?_, hpool, ?_, ?_⟩
    · rw [Finder.visitAll, bind_of_ok hvisit, bind_of_ok hrest, List.filterMap_cons]
      cases (outcome f scene lookup handle client n).dataset? <;> rfl
    · rw [hevents, trace_after, eventsOf_append, eventsOf_resolved, Outcome.eventsOf_actions,
        List.flatMap_cons, List.append_assoc]
    · rw [hrequests, trace_after, requestsOf_append, requestsOf_resolved,
        Outcome.requestsOf_actions, List.flatMap_cons, List.append_assoc]

theorem visitAll_of_idle (hs : Steady scene lookup handle f.job) (names : List TableName)
    (hidle : w.pool.idle = client :: others) :
    ∃ w', f.visitAll scene names w
        = .ok (names.filterMap fun n => (outcome f scene lookup handle client n).dataset?) w' ∧
      w'.pool = w.pool ∧
      eventsOf w'.trace = eventsOf w.trace ++ (names.flatMap fun n =>
        ((outcome f scene lookup handle client n).events n).filter (keeps scene.sink)) ∧
      requestsOf w'.trace = requestsOf w.trace ++ (names.flatMap fun n =>
        (outcome f scene lookup handle client n).requests client n) :=
  visitAll_of_answers hs.toGoesOn names (hs.answersBy w.config) hidle

end Table

/-- If tables are found, making datasets does not fail, and each table has one outcome, which
depends on its own settings and its own description alone: its dataset, reported as found, or
nothing at all, or a reported failure.  The datasets, the events and the requests of the run are
those of the outcomes, table by table. -/
theorem datasets_ledger {f : Finder} {scene : Scene State Handle}
    {lookup : String → Except Failure Settings} {handle : Handle}
    (hs : Steady scene lookup handle f.job) {w w₁ : World State} {names : List TableName}
    (h : f.tables scene w = .ok names w₁) :
    ∃ client w₂, w₁.pool.idle.head? = some client ∧
      f.datasets scene w
        = .ok (names.filterMap fun n => (outcome f scene lookup handle client n).dataset?) w₂ ∧
      eventsOf w₂.trace = eventsOf w.trace ++ (names.flatMap fun n =>
        ((outcome f scene lookup handle client n).events n).filter (keeps scene.sink)) ∧
      requestsOf w₂.trace = requestsOf w₁.trace ++ (names.flatMap fun n =>
        (outcome f scene lookup handle client n).requests client n) ∧
      w₂.pool = w₁.pool := by
  obtain ⟨client, others, hidle, hlisting⟩ := Finder.idle_of_tables_ok h
  obtain ⟨w₂, hvisit, hpool, hevents, hrequests⟩ := visitAll_of_idle hs names hidle
  refine ⟨client, w₂, ?_, ?_, ?_, hrequests, hpool⟩
  · rw [hidle, List.head?_cons]
  · rw [Finder.datasets, bind_of_ok h, hvisit]
  · rw [hevents, hlisting]

/-! ## A run with all three outcomes -/

def sampleCatalog : Catalog where
  databases := .ok ["db"]
  tables _ := .ok ["good", "bad", "out"]
  table n :=
    if n.table = "bad" then .error (.outage ⟨.timeout, none⟩)
    else .ok ⟨n, none, none, none, none, ∅, []⟩

def sampleLookup (uri : String) : Except Failure Settings :=
  .ok (if uri = "store/hive/db/out" then .ofList [(Finder.optOutKey, "Yes")] else ∅)

def sampleScene : Scene Unit Unit where
  catalog _ := sampleCatalog
  connect _ := ⟨[], .ok ⟨none, none, "main"⟩⟩
  service _ uri := ⟨sampleLookup uri, [], ()⟩
  build table settings := .ok ⟨(), table, ∅, settings⟩
  sink := EventSink.keeping

def sampleFinder : Finder where
  job := ∅
  policy := ⟨"", "", true, [], [], rfl, rfl⟩
  source := ⟨.store "store", []⟩

def sampleWorld : World Unit := ⟨⟨1, by decide, [], 0, 0⟩, (), []⟩

theorem steady_sampleScene : Steady sampleScene sampleLookup () sampleFinder.job where
  answers _ _ := rfl
  builds _ _ := rfl
  receives _ _ := nofun
  lookups_go_on _ _ h := nomatch h
  tables_go_on _ n failure h := by
    change (if n.table = "bad" then _ else _) = _ at h
    split at h
    · cases h
      rfl
    · cases h

theorem datasets_ledger_of_three :
    Steady sampleScene sampleLookup () sampleFinder.job ∧
      ∃ w₁ w₂,
        sampleFinder.tables sampleScene sampleWorld
          = .ok [⟨"db", "good"⟩, ⟨"db", "bad"⟩, ⟨"db", "out"⟩] w₁ ∧
        sampleFinder.datasets sampleScene sampleWorld
          = .ok [⟨(), ⟨⟨"db", "good"⟩, none, none, none, none, ∅, []⟩, ∅, ∅⟩] w₂ ∧
        eventsOf w₂.trace
          = [.found ⟨"db", "good"⟩, .failed ⟨"db", "bad"⟩ (.outage ⟨.timeout, none⟩)] ∧
        requestsOf w₂.trace
          = requestsOf w₁.trace ++ [.table "main.db.good", .table "main.db.bad"] := by
  have htables : ∃ w₁, sampleFinder.tables sampleScene sampleWorld
      = .ok [⟨"db", "good"⟩, ⟨"db", "bad"⟩, ⟨"db", "out"⟩] w₁ ∧
        w₁.pool.idle.head? = some ⟨none, none, "main"⟩ := ⟨_, rfl, rfl⟩
  obtain ⟨w₁, h, hidle⟩ := htables
  obtain ⟨client, w₂, hclient, hdatasets, hevents, hrequests, -⟩ :=
    datasets_ledger steady_sampleScene h
  obtain rfl : ⟨none, none, "main"⟩ = client := Option.some.inj (hidle.symm.trans hclient)
  exact ⟨steady_sampleScene, w₁, w₂, h, hdatasets, hevents, hrequests⟩

end Discovery
end CatalogScout
