import CatalogScout.Proofs.Discovery.Run
import CatalogScout.Proofs.Selection.Policy

/-!
Listing the tables of a catalog.

A listing asks for the tables of accepted databases only, yet it comes to what filtering every
pair of the catalog would come to, because a rejected database has no accepted table.  It is all
or nothing: the first request that fails is the cause of its failure.
-/

namespace CatalogScout
namespace Finder

open Discovery Commands

variable {State Handle : Type}

/-! ## The catalog as a whole -/

/-- Every pair of a catalog, in its order and as often as it is listed. -/
def pairs (databases : List String) (tablesIn : String → List String) : List TableName :=
  databases.flatMap fun db => (tablesIn db).map fun t => ⟨db, t⟩

/-- The pairs that the policy accepts, of every database. -/
def acceptedPairs (f : Finder) (databases : List String) (tablesIn : String → List String) :
    List TableName :=
  (pairs databases tablesIn).filter fun n => f.policy.accepts n.db n.table

/-- Every request of a listing is answered.  The tables of rejected databases are whatever they
are, since nobody asks for them. -/
structure Listed (f : Finder) (scene : Scene State Handle) (pool : Pool Connection)
    (client : Connection) (databases : List String) (tablesIn : String → List String) :
    Prop where
  client_eq : clientNow scene pool = .ok client
  databases_eq : (scene.catalog client).databases = .ok databases
  tables_eq : ∀ db ∈ databases, f.policy.acceptsDatabase db = true →
    (scene.catalog client).tables db = .ok (tablesIn db)

/-- What a listing asks a client for, up to the tables of some databases. -/
def asking (client : Connection) (databases : List String) : List Request :=
  .schemas client.catalog :: databases.map (.tables client.catalog)

/-- A request of a listing fails, and the ones before it are answered.  The requests are those
made with the client, the failing one included. -/
inductive ListingFault (f : Finder) (scene : Scene State Handle) (pool : Pool Connection) :
    List Request → Failure → Prop where
  | client {failure : Failure} (h : clientNow scene pool = .error failure) :
      ListingFault f scene pool [] failure
  | databases {client : Connection} {failure : Failure}
      (hc : clientNow scene pool = .ok client)
      (h : (scene.catalog client).databases = .error failure) :
      ListingFault f scene pool (asking client []) failure
  | tables {client : Connection} {before after : List String} {db : String} {failure : Failure}
      (hc : clientNow scene pool = .ok client)
      (hd : (scene.catalog client).databases = .ok (before ++ db :: after))
      (hbefore : ∀ d ∈ before, f.policy.acceptsDatabase d = true →
        ∃ tables, (scene.catalog client).tables d = .ok tables)
      (hdb : f.policy.acceptsDatabase db = true)
      (h : (scene.catalog client).tables db = .error failure) :
      ListingFault f scene pool
        (asking client (before.filter f.policy.acceptsDatabase ++ [db])) failure

theorem acceptedPairs_cons (f : Finder) (db : String) (rest : List String)
    (tablesIn : String → List String) :
    f.acceptedPairs (db :: rest) tablesIn
      = f.acceptedIn db (tablesIn db) ++ f.acceptedPairs rest tablesIn := by
  simp only [acceptedPairs, pairs, List.flatMap_cons, List.filter_append, acceptedIn,
    List.filter_map]
  rfl

theorem acceptedIn_of_rejected {f : Finder} {db : String}
    (h : f.policy.acceptsDatabase db = false) (tables : List String) :
    f.acceptedIn db tables = [] := by
  have hnone : tables.filter (f.policy.accepts db) = [] := by
    rw [List.filter_eq_nil_iff]
    intro t _ ht
    have hdb := Policy.acceptsDatabase_of_accepts ht
    rw [h] at hdb
    exact Bool.noConfusion hdb
  rw [acceptedIn, hnone, List.map_nil]

/-! ## Listing databases one after another -/

/-- The actions of asking for the tables of databases. -/
def tableRequests (catalog : String) (databases : List String) : List Action :=
  (databases.map (Request.tables catalog)).map .request

theorem listDatabases_cons_of_rejected {f : Finder} {db : String}
    (h : f.policy.acceptsDatabase db = false) (catalog : String) (c : Catalog)
    (rest : List String) :
    (f.listDatabases catalog c (db :: rest) : Run State (List TableName))
      = f.listDatabases catalog c rest := by
  rw [listDatabases, h, if_neg Bool.false_ne_true]

theorem listDatabases_ok {f : Finder} {c : Catalog} {tablesIn : String → List String}
    (catalog : String) (databases : List String) (w : World State)
    (h : ∀ db ∈ databases, f.policy.acceptsDatabase db = true →
      c.tables db = .ok (tablesIn db)) :
    f.listDatabases catalog c databases w
      = .ok (f.acceptedPairs databases tablesIn)
          (w.after (tableRequests catalog (databases.filter f.policy.acceptsDatabase))) := by
  induction databases generalizing w with
  | nil =>
    show EStateM.Result.ok [] w = .ok [] (w.after [])
    rw [after_nil]
  | cons db rest ih =>
    have hrest := fun w => ih w fun d hd => h d (List.mem_cons_of_mem db hd)
    rw [acceptedPairs_cons]
    cases hdb : f.policy.acceptsDatabase db with
    | false =>
      rw [listDatabases_cons_of_rejected hdb, hrest, acceptedIn_of_rejected hdb,
        List.nil_append, List.filter_cons_of_neg (by simp [hdb])]
    | true =>
      rw [listDatabases, hdb, if_pos rfl,
        bind_of_ok (request_ok (h db List.mem_cons_self hdb) _ w),
        bind_of_ok (hrest _), after_after, List.filter_cons_of_pos hdb]
      rfl

theorem listDatabases_error {f : Finder} {c : Catalog} {db : String} {failure : Failure}
    (catalog : String) (before after : List String) (w : World State)
    (hbefore : ∀ d ∈ before, f.policy.acceptsDatabase d = true → ∃ tables, c.tables d = .ok tables)
    (hdb : f.policy.acceptsDatabase db = true) (h : c.tables db = .error failure) :
    f.listDatabases catalog c (before ++ db :: after) w
      = .error failure
          (w.after
            (tableRequests catalog (before.filter f.policy.acceptsDatabase ++ [db]))) := by
  induction before generalizing w with
  | nil =>
    rw [List.nil_append, listDatabases, hdb, if_pos rfl, bind_of_error (request_error h _ w)]
    rfl
  | cons d rest ih =>
    have hrest := fun w => ih w fun d' hd' => hbefore d' (List.mem_cons_of_mem d hd')
    rw [List.cons_append]
    cases hd : f.policy.acceptsDatabase d with
    | false =>
      rw [listDatabases_cons_of_rejected hd, hrest, List.filter_cons_of_neg (by simp [hd])]
    | true =>
      obtain ⟨tables, ht⟩ := hbefore d List.mem_cons_self hd
      rw [listDatabases, hd, if_pos rfl, bind_of_ok (request_ok ht _ w),
        bind_of_error (hrest _), after_after, List.filter_cons_of_pos hd]
      rfl

/-- What rejected databases would answer does not matter. -/
theorem listDatabases_congr {f : Finder} {c c' : Catalog}
    (h : ∀ db, f.policy.acceptsDatabase db = true → c.tables db = c'.tables db)
    (catalog : String) (databases : List String) :
    (f.listDatabases catalog c databases : Run State (List TableName))
      = f.listDatabases catalog c' databases := by
  induction databases with
  | nil => rfl
  | cons db rest ih =>
    rw [listDatabases, listDatabases, ih]
    cases hdb : f.policy.acceptsDatabase db with
    | false => rfl
    | true => rw [h db hdb]

/-! ## The whole listing -/

section Whole

variable {f : Finder} {scene : Scene State Handle} {w : World State}

/-- The world after a listing that made requests with a client. -/
def afterListing (scene : Scene State Handle) (client : Connection) (asked : List Request)
    (w : World State) : World State :=
  ((lent scene w).after (asked.map .request)).giveBack client

theorem listAll_ok {client : Connection} {databases : List String}
    {tablesIn : String → List String} (h : f.Listed scene w.pool client databases tablesIn)
    (w : World State) :
    f.listAll scene client w
      = .ok (f.acceptedPairs databases tablesIn)
          (w.after
            ((asking client (databases.filter f.policy.acceptsDatabase)).map .request)) := by
  rw [listAll, bind_of_ok (request_ok h.databases_eq _ w),
    listDatabases_ok client.catalog databases _ h.tables_eq, after_after]
  rfl

theorem tables_of_listed {client : Connection} {databases : List String}
    {tablesIn : String → List String} (h : f.Listed scene w.pool client databases tablesIn) :
    f.tables scene w
      = .ok (f.acceptedPairs databases tablesIn)
          ((afterListing scene client
              (asking client (databases.filter f.policy.acceptsDatabase)) w).after
            [.log (.debug ("Found " ++ toString (f.acceptedPairs databases tablesIn).length
              ++ " candidate tables"))]) := by
  simp only [tables, withClient_ok h.client_eq (listAll_ok h (lent scene w)), afterListing]

theorem listAll_of_fault {client : Connection} {before after : List String} {db : String}
    {failure : Failure} (hd : (scene.catalog client).databases = .ok (before ++ db :: after))
    (hbefore : ∀ d ∈ before, f.policy.acceptsDatabase d = true →
      ∃ tables, (scene.catalog client).tables d = .ok tables)
    (hdb : f.policy.acceptsDatabase db = true)
    (h : (scene.catalog client).tables db = .error failure) (w : World State) :
    f.listAll scene client w
      = .error failure
          (w.after
            ((asking client (before.filter f.policy.acceptsDatabase ++ [db])).map
              .request)) := by
  rw [listAll, bind_of_ok (request_ok hd _ w),
    listDatabases_error client.catalog before after _ hbefore hdb h, after_after]
  rfl

theorem tables_of_fault {asked : List Request} {cause : Failure}
    (h : ListingFault f scene w.pool asked cause) :
    ∃ w', f.tables scene w = .error (listingFailure cause) w' ∧
      w'.trace = w.trace ++ takingActions scene w.pool ++ asked.map .request := by
  cases h with
  | client h =>
    refine ⟨lent scene w, ?_, by simp⟩
    simp only [tables, withClient_without h]
  | @databases client _ hc h =>
    refine ⟨afterListing scene client (asking client []) w, ?_, by simp [afterListing]⟩
    have hall : f.listAll scene client (lent scene w)
        = .error cause ((lent scene w).after ((asking client []).map .request)) := by
      rw [listAll, bind_of_error (request_error h _ _)]
      rfl
    simp only [tables, withClient_error hc hall, afterListing]
  | @tables client before after db _ hc hd hbefore hdb h =>
    refine ⟨afterListing scene client
      (asking client (before.filter f.policy.acceptsDatabase ++ [db])) w, ?_,
      by simp [afterListing]⟩
    simp only [tables, withClient_error hc (listAll_of_fault hd hbefore hdb h _), afterListing]

/-- Of databases, either every accepted one is listed or there is a first one that is not. -/
theorem all_or_first_fault (f : Finder) (c : Catalog) (databases : List String) :
    (∀ db ∈ databases, f.policy.acceptsDatabase db = true → ∃ tables, c.tables db = .ok tables) ∨
      ∃ before db after failure, databases = before ++ db :: after ∧
        (∀ d ∈ before, f.policy.acceptsDatabase d = true → ∃ tables, c.tables d = .ok tables) ∧
        f.policy.acceptsDatabase db = true ∧ c.tables db = .error failure := by
  induction databases with
  | nil => exact Or.inl fun db hdb => absurd hdb (List.not_mem_nil)
  | cons db rest ih =>
    by_cases hbad : f.policy.acceptsDatabase db = true ∧ ∃ failure, c.tables db = .error failure
    · obtain ⟨hdb, failure, h⟩ := hbad
      exact Or.inr ⟨[], db, rest, failure, rfl, by simp, hdb, h⟩
    · have hgood : f.policy.acceptsDatabase db = true → ∃ tables, c.tables db = .ok tables := by
        intro hdb
        cases ht : c.tables db with
        | ok tables => exact ⟨tables, rfl⟩
        | error failure => exact absurd ⟨hdb, failure, ht⟩ hbad
      rcases ih with hall | ⟨before, d, after, failure, rfl, hbefore, hd, h⟩
      · exact Or.inl (List.forall_mem_cons.2 ⟨hgood, hall⟩)
      · exact Or.inr ⟨db :: before, d, after, failure, rfl,
          List.forall_mem_cons.2 ⟨hgood, hbefore⟩, hd, h⟩

/-- A listing is answered throughout, or a request of it is the first to fail. -/
theorem listed_or_fault (f : Finder) (scene : Scene State Handle) (pool : Pool Connection) :
    (∃ client databases tablesIn, f.Listed scene pool client databases tablesIn) ∨
      ∃ asked cause, ListingFault f scene pool asked cause := by
  cases hc : clientNow scene pool with
  | error failure => exact Or.inr ⟨_, failure, .client hc⟩
  | ok client =>
    cases hd : (scene.catalog client).databases with
    | error failure => exact Or.inr ⟨_, failure, .databases hc hd⟩
    | ok databases =>
      rcases all_or_first_fault f (scene.catalog client) databases with
        hall | ⟨before, db, after, failure, rfl, hbefore, hdb, h⟩
      · refine Or.inl ⟨client, databases,
          fun db => ((scene.catalog client).tables db).toOption.getD [], hc, hd, ?_⟩
        intro db hmem hdb
        obtain ⟨tables, ht⟩ := hall db hmem hdb
        simp only [ht, Except.toOption, Option.getD_some]
      · exact Or.inr ⟨_, failure, .tables hc hd hbefore hdb h⟩

theorem listed_of_tables_ok {names : List TableName} {w' : World State}
    (h : f.tables scene w = .ok names w') :
    ∃ client databases tablesIn, f.Listed scene w.pool client databases tablesIn := by
  rcases listed_or_fault f scene w.pool with hlisted | ⟨asked, cause, hf⟩
  · exact hlisted
  · obtain ⟨w'', herror, -⟩ := tables_of_fault hf
    rw [herror] at h
    cases h

theorem fault_of_tables_error {failure : Failure} {w' : World State}
    (h : f.tables scene w = .error failure w') :
    ∃ asked cause, ListingFault f scene w.pool asked cause := by
  rcases listed_or_fault f scene w.pool with ⟨client, databases, tablesIn, hl⟩ | hfault
  · rw [tables_of_listed hl] at h
    cases h
  · exact hfault

theorem tables_congr {scene' : Scene State Handle} (hconnect : scene'.connect = scene.connect)
    (hdatabases : ∀ client, (scene'.catalog client).databases = (scene.catalog client).databases)
    (htables : ∀ client db, f.policy.acceptsDatabase db = true →
      (scene'.catalog client).tables db = (scene.catalog client).tables db) :
    f.tables scene' w = f.tables scene w := by
  have hbody : (f.listAll scene' : Connection → Run State _) = f.listAll scene := by
    funext client
    simp only [listAll, hdatabases client, listDatabases_congr (htables client)]
  have htake : takeClient scene' = takeClient scene := by
    funext w
    simp only [takeClient, takingActions, hconnect]
  simp only [tables, withClient, hbody, htake]

/-- The client that listed is the next one to be handed out, and no event was submitted. -/
theorem idle_of_tables_ok {names : List TableName} {w' : World State}
    (h : f.tables scene w = .ok names w') :
    ∃ client others, w'.pool.idle = client :: others ∧
      eventsOf w'.trace = eventsOf w.trace := by
  obtain ⟨client, databases, tablesIn, hl⟩ := listed_of_tables_ok h
  rw [tables_of_listed hl] at h
  obtain ⟨-, rfl⟩ := EStateM.Result.ok.inj h
  refine ⟨client, (lent scene w).pool.idle, rfl, ?_⟩
  simp only [afterListing, trace_after, trace_giveBack, trace_lent, eventsOf_append,
    eventsOf_takingActions, eventsOf_requests, List.append_nil]
  exact List.append_nil _

/-- A failure is reported as a failed listing exactly if it does not stop the run. -/
theorem listingFailure_eq_unlisted_iff (failure cause : Failure) :
    listingFailure failure = .unlisted cause ↔ failure = cause ∧ cause.stopsRun = false := by
  unfold listingFailure
  cases hs : failure.stopsRun with
  | false =>
    rw [if_neg Bool.false_ne_true, Failure.unlisted.injEq]
    constructor
    · rintro rfl
      exact ⟨rfl, hs⟩
    · exact And.left
  | true =>
    rw [if_pos rfl]
    constructor
    · rintro rfl
      exact absurd hs Bool.false_ne_true
    · rintro ⟨rfl, h⟩
      rw [hs] at h
      exact absurd h.symm Bool.false_ne_true

/-- A listing finds the accepted pairs among all pairs of the catalog, in their order, or fails
with the first request that fails as its cause.  It asks once for the tables of each occurrence
of an accepted database and never for those of a rejected one, so what a rejected database would
answer changes nothing. -/
theorem tables_all_or_nothing (f : Finder) (scene : Scene State Handle) (w : World State) :
    (∀ names, (∃ w', f.tables scene w = .ok names w') ↔
      ∃ client databases tablesIn, f.Listed scene w.pool client databases tablesIn ∧
        names = f.acceptedPairs databases tablesIn) ∧
    (∀ cause, (∃ w', f.tables scene w = .error (.unlisted cause) w') ↔
      cause.stopsRun = false ∧ ∃ asked, ListingFault f scene w.pool asked cause) ∧
    (∀ client databases tablesIn, f.Listed scene w.pool client databases tablesIn →
      ∃ w', f.tables scene w = .ok (f.acceptedPairs databases tablesIn) w' ∧
        requestsOf w'.trace = requestsOf w.trace ++ requestsOf (takingActions scene w.pool)
          ++ asking client (databases.filter f.policy.acceptsDatabase)) ∧
    (∀ asked cause, ListingFault f scene w.pool asked cause →
      ∃ w', f.tables scene w = .error (listingFailure cause) w' ∧
        requestsOf w'.trace = requestsOf w.trace ++ requestsOf (takingActions scene w.pool)
          ++ asked) ∧
    (∀ scene' : Scene State Handle, scene'.connect = scene.connect →
      (∀ client, (scene'.catalog client).databases = (scene.catalog client).databases) →
      (∀ client db, f.policy.acceptsDatabase db = true →
        (scene'.catalog client).tables db = (scene.catalog client).tables db) →
      f.tables scene' w = f.tables scene w) := by
  refine ⟨fun names => ⟨?_, ?_⟩, fun cause => ⟨?_, ?_⟩, ?_, ?_, ?_⟩
  · rintro ⟨w', h⟩
    obtain ⟨client, databases, tablesIn, hl⟩ := listed_of_tables_ok h
    rw [tables_of_listed hl] at h
    exact ⟨client, databases, tablesIn, hl, (EStateM.Result.ok.inj h).1.symm⟩
  · rintro ⟨client, databases, tablesIn, hl, rfl⟩
    exact ⟨_, tables_of_listed hl⟩
  · rintro ⟨w', h⟩
    obtain ⟨asked, failure, hf⟩ := fault_of_tables_error h
    obtain ⟨w'', herror, -⟩ := tables_of_fault hf
    rw [herror] at h
    obtain ⟨rfl, hs⟩ :=
      (listingFailure_eq_unlisted_iff failure cause).1 (EStateM.Result.error.inj h).1
    exact ⟨hs, asked, hf⟩
  · rintro ⟨hs, asked, hf⟩
    obtain ⟨w', herror, -⟩ := tables_of_fault hf
    rw [(listingFailure_eq_unlisted_iff cause cause).2 ⟨rfl, hs⟩] at herror
    exact ⟨w', herror⟩
  · intro client databases tablesIn hl
    refine ⟨_, tables_of_listed hl, ?_⟩
    simp only [afterListing, trace_after, trace_giveBack, trace_lent, requestsOf_append,
      requestsOf_requests]
    exact List.append_nil _
  · intro asked cause hf
    obtain ⟨w', herror, htrace⟩ := tables_of_fault hf
    refine ⟨w', herror, ?_⟩
    rw [htrace, requestsOf_append, requestsOf_append, requestsOf_requests]
  · intro scene' hconnect hdatabases htables
    exact tables_congr hconnect hdatabases htables

end Whole

end Finder
end CatalogScout
