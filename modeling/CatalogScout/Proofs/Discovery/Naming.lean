import CatalogScout.Proofs.Discovery.Ledger
import Mathlib.Data.List.Forall2

/-!
The names of datasets and the names in their reports.

What is listed is accepted or rejected by the name it is listed under, and a table that was found
is reported under that name, too.  A dataset goes by the name in the description of its table.  So
datasets and reports stand side by side, in one order and as many of one as of the other, and they
tell the same names as far as descriptions do.
-/

namespace CatalogScout

open Commands

variable {State Handle : Type}

/-! ## Reports by name -/

namespace Event

/-- The name of the table that an event is about. -/
def urn? (e : Event) : Option String := e.metadata.get? urnKey

theorem urn?_found (n : TableName) : (found n).urn? = some n.text := by
  simp [urn?, found, Settings.lastValue?]

theorem named_append (name : String) (a b : List Event) :
    named name (a ++ b) = named name a ++ named name b :=
  List.filter_append a b

end Event

/-! ## Descriptions -/

/-- A description names no other database and no other table than those it was asked for. -/
def TableInfo.Agrees (info : TableInfo) (n : TableName) : Prop :=
  (∀ db, Connection.given? info.db = some db → db = n.db) ∧
    ∀ table, Connection.given? info.name = some table → table = n.table

theorem TableInfo.name_toTable {info : TableInfo} {n : TableName} (h : info.Agrees n) :
    (info.toTable n).name = n := by
  obtain ⟨hdb, htable⟩ := h
  have hdbName : (Connection.given? info.db).getD n.db = n.db := by
    cases hgiven : Connection.given? info.db with
    | none => rfl
    | some db => exact hdb db hgiven
  have htableName : (Connection.given? info.name).getD n.table = n.table := by
    cases hgiven : Connection.given? info.name with
    | none => rfl
    | some table => exact htable table hgiven
  show TableName.mk _ _ = n
  rw [hdbName, htableName]

theorem Workspace.answered_eq_ok {α β : Type} {read : α → β} {answer : Except Outage α} {b : β}
    (h : answered read answer = .ok b) : ∃ a, answer = .ok a ∧ read a = b := by
  cases answer with
  | ok a => exact ⟨a, rfl, Except.ok.inj h⟩
  | error o => cases h

namespace Discovery

/-! ## One table -/

/-- The report that goes with an answer. -/
def reportOf (n : TableName) : Except Failure (Option (Dataset Handle)) → List Event
  | .ok (some _) => [.found n]
  | _ => []

/-- A dataset was built of what some client's catalog says of a table. -/
def Describes (scene : Scene State Handle) (n : TableName) (d : Dataset Handle) : Prop :=
  ∃ client table settings, (scene.catalog client).table n = .ok table ∧
    scene.build table settings = .ok d

/-- What is reported as found is the dataset that is answered, and no other. -/
structure Tells (scene : Scene State Handle) (n : TableName)
    (answer : Except Failure (Option (Dataset Handle))) (events : List Event) : Prop where
  reports : Event.named Event.foundName events = (reportOf n answer).filter (keeps scene.sink)
  describes : ∀ d, answer = .ok (some d) → Describes scene n d
  received : ∀ d, answer = .ok (some d) → ∀ refusal, scene.sink (.found n) ≠ .refused refusal

section Table

variable {scene : Scene State Handle} {n : TableName}

theorem tells_failure (failure : Failure) : Tells scene n (.error failure) [] :=
  ⟨rfl, nofun, nofun⟩

theorem tells_delivery {client : Connection} {table : Except Failure Table}
    (htable : (scene.catalog client).table n = table) (settings : Settings) :
    Tells scene n (deliveryScript scene n table settings).answer
      (eventsOf (deliveryScript scene n table settings).actions) := by
  cases table with
  | error failure => exact tells_failure failure
  | ok table =>
    simp only [deliveryScript]
    cases hbuild : scene.build table settings with
    | error failure => exact tells_failure failure
    | ok d =>
      have hdescribes : ∀ d', (Except.ok (some d) : Except Failure _) = .ok (some d') →
          Describes scene n d' := by
        intro d' hd
        cases hd
        exact ⟨client, table, settings, htable, hbuild⟩
      cases hsink : scene.sink (.found n) with
      | kept =>
        refine ⟨?_, hdescribes, fun _ _ refusal => by simp [hsink]⟩
        have hkeeps : keeps scene.sink (.found n) = true := by simp only [keeps, hsink]
        rw [reportOf, List.filter_cons_of_pos hkeeps]
        rfl
      | dropped =>
        refine ⟨?_, hdescribes, fun _ _ refusal => by simp [hsink]⟩
        have hkeeps : ¬keeps scene.sink (.found n) = true := by simp [keeps, hsink]
        rw [reportOf, List.filter_cons_of_neg hkeeps]
        rfl
      | refused failure => exact tells_failure failure

theorem tells_making (client : Connection) (settings : Settings) :
    Tells scene n (makingScript scene client n settings).answer
      (eventsOf (makingScript scene client n settings).actions) := by
  unfold makingScript
  cases settings.boolean Finder.optOutKey false with
  | error failure => exact tells_failure failure
  | ok optedOut =>
    cases optedOut with
    | true => exact ⟨rfl, nofun, nofun⟩
    | false => exact tells_delivery rfl settings

/-- The report of a failure is none of a found table. -/
theorem tells_reported {s : Script (Option (Dataset Handle))}
    (h : Tells scene n s.answer (eventsOf s.actions)) :
    Tells scene n (reported scene n s).answer (eventsOf (reported scene n s).actions) := by
  obtain ⟨answer, actions⟩ := s
  cases answer with
  | ok found => exact h
  | error failure =>
    have hnone : Event.named Event.foundName (eventsOf actions) = [] := h.reports
    unfold reported
    by_cases hstops : failure.stopsRun = true
    · simp only [hstops, if_true]
      exact h
    · have htold : ∀ more, Event.named Event.foundName (eventsOf more) = [] →
          Event.named Event.foundName (eventsOf (actions ++ more)) = [] := by
        intro more hmore
        rw [eventsOf_append, Event.named_append, hnone, hmore]
        rfl
      simp only [hstops]
      cases scene.sink (.failed n failure) with
      | kept =>
        refine ⟨?_, nofun, nofun⟩
        rw [List.append_assoc]
        exact htold _ rfl
      | dropped => exact ⟨htold _ rfl, nofun, nofun⟩
      | refused refusal => exact ⟨htold _ rfl, nofun, nofun⟩

theorem visit_tells (f : Finder) (scene : Scene State Handle) (n : TableName) (w : World State) :
    ∃ answer events w', f.visit scene n w = result answer w' ∧
      eventsOf w'.trace = eventsOf w.trace ++ events ∧ Tells scene n answer events := by
  cases hclient : clientNow scene w.pool with
  | error failure =>
    refine ⟨_, _, _, visit_without hclient f n, ?_, tells_reported (tells_failure failure)⟩
    rw [trace_after, eventsOf_append, trace_lent, eventsOf_append, eventsOf_takingActions,
      List.append_nil]
  | ok client =>
    let s := visitScript scene client n (f.source.resolve scene.service w.config n).answer
    refine ⟨s.answer, eventsOf s.actions, _, visit_eq hclient f n, ?_, tells_reported ?_⟩
    · rw [trace_after, eventsOf_append, eventsOf_lookedUp]
    · cases (f.source.resolve scene.service w.config n).answer with
      | error failure => exact tells_failure failure
      | ok settings => exact tells_making client settings

end Table

/-! ## All tables -/

/-- Datasets and reports stand side by side: both belong to the same tables, in the same order. -/
structure SideBySide (scene : Scene State Handle) (names : List TableName)
    (found : List (Dataset Handle)) (events : List Event) : Prop where
  describes : List.Forall₂ (Describes scene) names found
  reports : Event.named Event.foundName events = (names.map Event.found).filter (keeps scene.sink)
  received : ∀ n ∈ names, ∀ refusal, scene.sink (.found n) ≠ .refused refusal

theorem SideBySide.reports_of_undropped {scene : Scene State Handle} {names : List TableName}
    {found : List (Dataset Handle)} {events : List Event}
    (h : SideBySide scene names found events)
    (hundropped : ∀ n ∈ names, scene.sink (.found n) ≠ .dropped) :
    Event.named Event.foundName events = names.map Event.found := by
  rw [h.reports, List.filter_eq_self]
  intro e he
  obtain ⟨n, hn, rfl⟩ := List.mem_map.1 he
  cases hsink : scene.sink (.found n) with
  | kept => simp only [keeps, hsink]
  | dropped => exact absurd hsink (hundropped n hn)
  | refused refusal => exact absurd hsink (h.received n hn refusal)

theorem visitAll_sideBySide {f : Finder} {scene : Scene State Handle} {asked : List TableName}
    {found : List (Dataset Handle)} {w w' : World State}
    (h : f.visitAll scene asked w = .ok found w') :
    ∃ names events, names.Sublist asked ∧ eventsOf w'.trace = eventsOf w.trace ++ events ∧
      SideBySide scene names found events := by
  induction asked generalizing w found with
  | nil =>
    obtain ⟨rfl, rfl⟩ := EStateM.Result.ok.inj h
    exact ⟨[], [], List.Sublist.refl [], (List.append_nil _).symm, .nil, rfl, nofun⟩
  | cons n rest ih =>
    obtain ⟨found₁, w₁, hvisit, hlater⟩ := exists_of_bind_ok h
    obtain ⟨others, w₂, hrest, hend⟩ := exists_of_bind_ok hlater
    obtain ⟨rfl, rfl⟩ := EStateM.Result.ok.inj hend
    obtain ⟨answer, events₁, w₁', hsame, hevents, htells⟩ := visit_tells f scene n w
    have hanswer : result (.ok found₁) w₁ = result answer w₁' := hvisit.symm.trans hsame
    obtain ⟨rfl, rfl⟩ := result_inj hanswer
    obtain ⟨names, events, hnames, hmore, hside⟩ := ih hrest
    have htrace : eventsOf w₂.trace = eventsOf w.trace ++ (events₁ ++ events) := by
      rw [hmore, hevents, List.append_assoc]
    have hreports : Event.named Event.foundName (events₁ ++ events)
        = (reportOf n (.ok found₁)).filter (keeps scene.sink)
          ++ (names.map Event.found).filter (keeps scene.sink) := by
      rw [Event.named_append, htells.reports, hside.reports]
    cases found₁ with
    | none => exact ⟨names, _, hnames.cons n, htrace, hside.describes, hreports, hside.received⟩
    | some d =>
      refine ⟨n :: names, _, hnames.cons_cons n, htrace, ?_, ?_, ?_⟩
      · exact .cons (htells.describes d rfl) hside.describes
      · rw [hreports, List.map_cons, ← List.filter_append]
        rfl
      · exact List.forall_mem_cons.2 ⟨htells.received d rfl, hside.received⟩

end Discovery

namespace Finder

open Discovery

theorem datasets_sideBySide {f : Finder} {scene : Scene State Handle}
    {found : List (Dataset Handle)} {w w' : World State}
    (h : f.datasets scene w = .ok found w') :
    ∃ names events, (∀ n ∈ names, f.policy.accepts n.db n.table = true) ∧
      eventsOf w'.trace = eventsOf w.trace ++ events ∧ SideBySide scene names found events := by
  obtain ⟨listed, w₁, htables, hvisit⟩ := exists_of_bind_ok h
  obtain ⟨client, databases, tablesIn, hlisted⟩ := listed_of_tables_ok htables
  obtain ⟨names, events, hnames, hevents, hside⟩ := visitAll_sideBySide hvisit
  obtain ⟨-, -, -, hquiet⟩ := idle_of_tables_ok htables
  have hwhole := tables_of_listed hlisted
  rw [htables] at hwhole
  obtain ⟨rfl, -⟩ := EStateM.Result.ok.inj hwhole
  refine ⟨names, events, ?_, ?_, hside⟩
  · intro n hn
    exact (List.mem_filter.1 (hnames.subset hn)).2
  · rw [hevents, hquiet]

/-- The table of a dataset is what a workspace says of a table that it was asked for. -/
def DescribedBy (workspace : Connection → Workspace) (n : TableName) (d : Dataset Handle) : Prop :=
  ∃ client info, (workspace client).table (Workspace.fullName client.catalog n) = .ok info ∧
    d.table = info.toTable n

/-- Workspaces describe accepted tables under the names that these are asked for. -/
def NamesAsAsked (policy : Policy) (workspace : Connection → Workspace) : Prop :=
  ∀ client n info, policy.accepts n.db n.table = true →
    (workspace client).table (Workspace.fullName client.catalog n) = .ok info → info.Agrees n

theorem names_eq_of_described {policy : Policy} {workspace : Connection → Workspace}
    {names : List TableName} {found : List (Dataset Handle)}
    (haccepted : ∀ n ∈ names, policy.accepts n.db n.table = true)
    (hasked : NamesAsAsked policy workspace)
    (hdescribed : List.Forall₂ (DescribedBy workspace) names found) :
    names = found.map Dataset.name := by
  induction hdescribed with
  | nil => rfl
  | @cons n d names found hd _ ih =>
    obtain ⟨hn, hrest⟩ := List.forall_mem_cons.1 haccepted
    obtain ⟨client, info, hinfo, htable⟩ := hd
    have hname : d.name = n := by
      rw [Dataset.name, htable]
      exact TableInfo.name_toTable (hasked client n info hn hinfo)
    rw [List.map_cons, hname, ← ih hrest]

/-- Every dataset of a run was built of the description of an accepted table, and for every dataset
that table was reported as found, in the same order.  If accepted tables are described under the
names they are asked for, datasets and reports tell the same names, and all of them are accepted. -/
theorem datasets_reported_by_name {f : Finder} {scene : Scene State Handle}
    {workspace : Connection → Workspace}
    (hserved : ∀ client, scene.catalog client = (workspace client).catalog client.catalog)
    (hbuild : ∀ table settings d, scene.build table settings = .ok d → d.table = table)
    {found : List (Dataset Handle)} {w w' : World State}
    (h : f.datasets scene w = .ok found w') :
    ∃ names events, (∀ n ∈ names, f.policy.accepts n.db n.table = true) ∧
      eventsOf w'.trace = eventsOf w.trace ++ events ∧
      Event.named Event.foundName events = (names.map Event.found).filter (keeps scene.sink) ∧
      List.Forall₂ (DescribedBy workspace) names found ∧
      (NamesAsAsked f.policy workspace →
        (∀ d ∈ found, f.policy.accepts d.name.db d.name.table = true) ∧
        ((∀ n, scene.sink (.found n) ≠ .dropped) →
          (Event.named Event.foundName events).map Event.urn? = found.map (some ·.urn))) := by
  obtain ⟨names, events, haccepted, hevents, hside⟩ := datasets_sideBySide h
  have hdescribed : List.Forall₂ (DescribedBy workspace) names found := by
    apply hside.describes.imp
    intro n d hd
    obtain ⟨client, table, settings, htable, hbuilt⟩ := hd
    rw [hserved client] at htable
    obtain ⟨info, hinfo, hread⟩ := Workspace.answered_eq_ok htable
    exact ⟨client, info, hinfo, (hbuild table settings d hbuilt).trans hread.symm⟩
  refine ⟨names, events, haccepted, hevents, hside.reports, hdescribed, ?_⟩
  intro hasked
  have hnames := names_eq_of_described haccepted hasked hdescribed
  constructor
  · intro d hd
    apply haccepted d.name
    rw [hnames]
    exact List.mem_map_of_mem hd
  · intro hundropped
    rw [hside.reports_of_undropped fun n _ => hundropped n, hnames, List.map_map, List.map_map]
    exact List.map_congr_left fun d _ => Event.urn?_found d.name

/-! ## Descriptions under the same name and under another one -/

/-- One table, `db.t`, with some description. -/
def oneTable (info : TableInfo) : Workspace where
  schemas _ := .ok [⟨some "db", none⟩]
  tables _ _ := .ok [⟨some "t"⟩]
  table _ := .ok info

def oneTableScene (info : TableInfo) : Scene Unit Unit :=
  { sampleScene with catalog client := (oneTable info).catalog client.catalog }

/-- Only the database `db` is selected. -/
def narrowJob : Settings := .ofList [(Job.whitelistKey, "db")]

theorem datasets_reported_by_name_of_one :
    NamesAsAsked sampleFinder.policy (fun _ => oneTable {}) ∧
      ∃ found w', sampleFinder.datasets (oneTableScene {}) sampleWorld = .ok found w' ∧
        found.map Dataset.urn = ["db.t"] ∧
        (Event.named Event.foundName (eventsOf w'.trace)).map Event.urn? = [some "db.t"] := by
  have hasked : NamesAsAsked sampleFinder.policy fun _ => oneTable {} := by
    intro client n info _ hinfo
    cases hinfo
    exact ⟨nofun, nofun⟩
  obtain ⟨found, w', h, hurn⟩ : ∃ found w',
      sampleFinder.datasets (oneTableScene {}) sampleWorld = .ok found w' ∧
        found.map Dataset.urn = ["db.t"] := ⟨_, _, rfl, rfl⟩
  have hserved : ∀ client, (oneTableScene {}).catalog client =
      (oneTable {}).catalog client.catalog := fun _ => rfl
  have hbuild : ∀ table settings d, (oneTableScene {}).build table settings = .ok d →
      d.table = table := by
    intro table settings d hd
    cases hd
    rfl
  obtain ⟨names, events, -, hevents, -, -, hagree⟩ := datasets_reported_by_name hserved hbuild h
  have hall : eventsOf w'.trace = events := hevents
  have hreported := (hagree hasked).2 fun _ => nofun
  refine ⟨hasked, found, w', h, hurn, ?_⟩
  rw [hall, hreported]
  exact (List.map_map ..).symm.trans (congrArg (List.map some) hurn)

/-- What a run is seen by: the names of its datasets, and those in the reports of found tables. -/
def seen (f : Finder) (scene : Scene Unit Unit) : Option (List String × List (Option String)) :=
  match f.datasets scene sampleWorld with
  | .ok found w' => some (found.map Dataset.urn,
      (Event.named Event.foundName (eventsOf w'.trace)).map Event.urn?)
  | .error _ _ => none

def renamed : TableInfo := { db := some "other", name := some "x" }

/-- A table that is described under another name becomes a dataset of that name, which the policy
rejects, while the report tells the name that was listed. -/
theorem urn_of_description :
    ∃ f found w', ofJob narrowJob = .ok f ∧
      f.datasets (oneTableScene renamed) sampleWorld = .ok found w' ∧
      found.map Dataset.urn = ["other.x"] ∧
      (Event.named Event.foundName (eventsOf w'.trace)).map Event.urn? = [some "db.t"] ∧
      f.policy.accepts "db" "t" = true ∧ f.policy.accepts "other" "x" = false := by
  have hrun : (ofJob narrowJob).toOption.map
      (fun f => (seen f (oneTableScene renamed), f.policy.accepts "db" "t",
        f.policy.accepts "other" "x"))
      = some (some (["other.x"], [some "db.t"]), true, false) := by decide +kernel
  cases hf : ofJob narrowJob with
  | error failure =>
    rw [hf] at hrun
    cases hrun
  | ok f =>
    rw [hf] at hrun
    obtain ⟨hseen, hpolicy⟩ := Prod.mk.inj (Option.some.inj hrun)
    obtain ⟨hyes, hno⟩ := Prod.mk.inj hpolicy
    unfold seen at hseen
    cases hd : f.datasets (oneTableScene renamed) sampleWorld with
    | error failure w' =>
      rw [hd] at hseen
      cases hseen
    | ok found w' =>
      rw [hd] at hseen
      obtain ⟨hurns, hreports⟩ := Prod.mk.inj (Option.some.inj hseen)
      exact ⟨f, found, w', rfl, hd, hurns, hreports, hyes, hno⟩

end Finder
end CatalogScout
