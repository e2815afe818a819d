import CatalogScout.Proofs.Commands.Ready
import CatalogScout.Proofs.Discovery.Naming

/-!
One catalog, told by two commands.

The tables that one command lists are the candidates of the other.  Of each candidate the account of
the datasets has one thing to say: a row among the datasets, a row among the failures, or nothing if
the candidate opts out.  The codes that the commands end with say whether the listing failed and
whether a candidate failed, and nothing else.
-/

namespace CatalogScout

open Discovery

namespace Discovery

variable {Handle : Type}

namespace Outcome

def failure? : Outcome Handle → Option Failure
  | .found _ => none
  | .optedOut => none
  | .failed _ failure => some failure

def isOptedOut : Outcome Handle → Bool
  | .found _ => false
  | .optedOut => true
  | .failed _ _ => false

/-- A table opts out by its own settings. -/
theorem ofAnswers_eq_optedOut {handle : Handle} {job : Settings}
    {settings : Except Failure Settings} {table : Except Failure Table}
    (h : ofAnswers handle job settings table = .optedOut) :
    ∃ own, settings = .ok own ∧ own.boolean Finder.optOutKey false = .ok true := by
  unfold ofAnswers at h
  cases settings with
  | error failure => cases h
  | ok own =>
    refine ⟨own, rfl, ?_⟩
    cases hflag : own.boolean Finder.optOutKey false with
    | error failure =>
      simp only [hflag] at h
      cases h
    | ok optedOut =>
      cases optedOut with
      | true => rfl
      | false =>
        simp only [hflag] at h
        cases table <;> cases h

/-- The events of a failure are those of its outcome that are told as failures. -/
theorem named_failed (n : TableName) (o : Outcome Handle) :
    Event.named Event.failedName (o.events n) = (o.failure?.map (Event.failed n)).toList := by
  cases o with
  | found dataset => rfl
  | optedOut => rfl
  | failed asked failure => rfl

/-- What is accounted for is each candidate, once. -/
theorem count_outcomes (outcomeOf : TableName → Outcome Handle) (names : List TableName) :
    (names.filterMap fun n => (outcomeOf n).dataset?).length
        + (names.filterMap fun n => (outcomeOf n).failure?.map (n, ·)).length
        + (names.filter fun n => (outcomeOf n).isOptedOut).length
      = names.length := by
  induction names with
  | nil => rfl
  | cons n names ih =>
    simp only [List.filterMap_cons, List.filter_cons, List.length_cons, dataset?, failure?,
      isOptedOut] at ih ⊢
    cases outcomeOf n with
    | found dataset =>
      simp only [Option.map_none, List.length_cons, Bool.false_eq_true, if_false]
      omega
    | optedOut =>
      simp only [Option.map_none, List.length_cons, if_true]
      omega
    | failed asked failure =>
      simp only [Option.map_some, List.length_cons, Bool.false_eq_true, if_false]
      omega

end Outcome
end Discovery

namespace Commands

open Markup Text

/-! ## What a command prints -/

/-- The rows of the printed tables of a title. -/
def rowsOf (title : String) (printed : List Printed) : List (List String) :=
  printed.flatMap fun
    | .line _ => []
    | .status _ => []
    | .table t _ rows => if t = title then rows else []

/-- Rows of cells that show texts as they are. -/
def shown [Escaping] (rows : List (List String)) : List (List String) :=
  rows.map fun row => row.map escaped

theorem rowsOf_append (title : String) (a b : List Printed) :
    rowsOf title (a ++ b) = rowsOf title a ++ rowsOf title b :=
  List.flatMap_append

theorem rowsOf_tables [Escaping] (names : List TableName) :
    rowsOf "Accepted tables" (Report.tables (.ok names)).printed
      = shown (names.map fun n => [n.db, n.table]) := by
  cases names with
  | nil => rfl
  | cons n names => exact List.append_nil _

theorem ending_tables [Escaping] (names : List TableName) :
    (Report.tables (.ok names)).ending = .exit 0 := by
  cases names with
  | nil => rfl
  | cons n names => rfl

section Datasets

variable [Escaping] {Handle : Type}

theorem rowsOf_datasetLines (found : List (Dataset Handle)) :
    rowsOf "Datasets" (Report.datasetLines found) = shown (found.map Report.datasetRow) ∧
      rowsOf "Failed datasets" (Report.datasetLines found) = [] := by
  cases found with
  | nil => exact ⟨rfl, rfl⟩
  | cons d found => exact ⟨List.append_nil _, rfl⟩

theorem rowsOf_outcome (found : List (Dataset Handle)) (failures : List Event) :
    rowsOf "Datasets" (Report.outcome found failures).printed = [] ∧
      rowsOf "Failed datasets" (Report.outcome found failures).printed
        = shown (failures.map Report.failureRow) := by
  cases failures with
  | nil => exact ⟨rfl, rfl⟩
  | cons e failures => exact ⟨rfl, List.append_nil _⟩

/-- What is printed about datasets and failures, before the closing line. -/
theorem printed_datasets (found : List (Dataset Handle)) (events : List Event) :
    (Report.datasets (.ok found) events).printed
      = [.status "Discovering datasets..."] ++ (Report.datasetLines found
        ++ (Report.outcome found (Event.named Event.failedName events)).printed) :=
  rfl

theorem rowsOf_datasets (found : List (Dataset Handle)) (events : List Event) :
    rowsOf "Datasets" (Report.datasets (.ok found) events).printed
        = shown (found.map Report.datasetRow) ∧
      rowsOf "Failed datasets" (Report.datasets (.ok found) events).printed
        = shown ((Event.named Event.failedName events).map Report.failureRow) := by
  obtain ⟨hrows, hnone⟩ := rowsOf_datasetLines found
  obtain ⟨hnone', hrows'⟩ := rowsOf_outcome found (Event.named Event.failedName events)
  rw [printed_datasets, rowsOf_append, rowsOf_append, rowsOf_append, rowsOf_append, hrows, hnone,
    hnone', hrows', List.append_nil]
  exact ⟨rfl, rfl⟩

/-- The last line and the code tell of the failures, if there are any. -/
theorem closing_datasets (found : List (Dataset Handle)) (events : List Event) :
    (Report.datasets (.ok found) events).printed.getLast?
        = some (if (Event.named Event.failedName events).isEmpty then
            .success ("Discovered " ++ toString found.length ++ " dataset(s).")
          else .error ("Failed to create "
            ++ toString (Event.named Event.failedName events).length ++ " dataset(s).")) ∧
      (Report.datasets (.ok found) events).ending
        = .exit (if (Event.named Event.failedName events).isEmpty then 0 else 1) := by
  have hending : (Report.datasets (.ok found) events).ending
      = (Report.outcome found (Event.named Event.failedName events)).ending := rfl
  rw [printed_datasets, hending]
  cases Event.named Event.failedName events with
  | nil =>
    refine ⟨?_, rfl⟩
    rw [← List.append_assoc]
    exact List.getLast?_concat
  | cons e failures =>
    refine ⟨?_, rfl⟩
    show ([_] ++ (_ ++ ([_] ++ [_]))).getLast? = _
    rw [← List.append_assoc, ← List.append_assoc]
    exact List.getLast?_concat

end Datasets

/-! ## Candidates -/

namespace Context

/-- The listing of the job's tables comes to these. -/
def Lists (c : Context) (s : Surroundings) (names : List TableName) : Prop :=
  ∃ client databases tablesIn,
    c.finder.Listed (c.scene s) c.supply.pool client databases tablesIn ∧
      names = c.finder.acceptedPairs databases tablesIn

/-- A request of the listing fails. -/
def FailsToList (c : Context) (s : Surroundings) (cause : Failure) : Prop :=
  ∃ asked, c.finder.ListingFault (c.scene s) c.supply.pool asked cause

/-- The settings of a candidate. -/
def settings (c : Context) (s : Surroundings) (n : TableName) : Except Failure Settings :=
  settingsBy (ConfigClient.lookup s.stores) c.finder.source n

/-- What becomes of a candidate, by its own settings and its own description in the catalog that
the job names. -/
def outcome (c : Context) (s : Surroundings) (n : TableName) : Outcome Unit :=
  .ofAnswers () c.finder.job (c.settings s n) ((s.workspace.catalog c.endpoint.catalog).table n)

/-- The datasets of candidates. -/
def found (c : Context) (s : Surroundings) (names : List TableName) : List (Dataset Unit) :=
  names.filterMap fun n => (c.outcome s n).dataset?

/-- The candidates that fail, and what they fail for. -/
def failed (c : Context) (s : Surroundings) (names : List TableName) :
    List (TableName × Failure) :=
  names.filterMap fun n => (c.outcome s n).failure?.map (n, ·)

/-- The candidates that opt out. -/
def optedOut (c : Context) (s : Surroundings) (names : List TableName) : List TableName :=
  names.filter fun n => (c.outcome s n).isOptedOut

variable {c : Context} {s : Surroundings} {names : List TableName} {cause : Failure}

theorem lists_or_fails (c : Context) (s : Surroundings) :
    (∃ names, c.Lists s names) ∨ ∃ cause, c.FailsToList s cause := by
  rcases Finder.listed_or_fault c.finder (c.scene s) c.supply.pool with
    ⟨client, databases, tablesIn, h⟩ | ⟨asked, cause, h⟩
  · exact Or.inl ⟨_, client, databases, tablesIn, h, rfl⟩
  · exact Or.inr ⟨cause, asked, h⟩

/-- After a listing the client that listed is idle, of the catalog that the job names. -/
theorem tables_of_lists (hready : c.Ready s.login) (h : c.Lists s names) :
    ∃ client others w, c.finder.tables (c.scene s) (c.world s) = .ok names w ∧
      client.catalog = c.endpoint.catalog ∧ w.pool.idle = client :: others ∧
      eventsOf w.trace = [] := by
  obtain ⟨client, databases, tablesIn, hlisted, rfl⟩ := h
  have htables := Finder.tables_of_listed (w := c.world s) hlisted
  obtain ⟨-, -, -, hevents⟩ := Finder.idle_of_tables_ok htables
  exact ⟨client, _, _, htables, catalog_of_clientNow hready hlisted.client_eq, rfl, hevents⟩

theorem not_fails_of_lists (h : c.Lists s names) : ¬c.FailsToList s cause := by
  intro hfails
  obtain ⟨client, databases, tablesIn, hlisted, rfl⟩ := h
  obtain ⟨asked, hfault⟩ := hfails
  have hok := Finder.tables_of_listed (w := c.world s) hlisted
  obtain ⟨w', herror, -⟩ := Finder.tables_of_fault (w := c.world s) hfault
  cases hok.symm.trans herror

theorem lists_unique {names' : List TableName} (h : c.Lists s names) (h' : c.Lists s names') :
    names = names' := by
  obtain ⟨client, databases, tablesIn, hlisted, rfl⟩ := h
  obtain ⟨client', databases', tablesIn', hlisted', rfl⟩ := h'
  have htables := Finder.tables_of_listed (w := c.world s) hlisted
  have htables' := Finder.tables_of_listed (w := c.world s) hlisted'
  exact (EStateM.Result.ok.inj (htables.symm.trans htables')).1

theorem tables_of_fails (hready : c.Ready s.login) (hcalm : Calm s) (h : c.FailsToList s cause) :
    ∃ w, c.finder.tables (c.scene s) (c.world s) = .error (.unlisted cause) w := by
  obtain ⟨asked, hfault⟩ := h
  obtain ⟨w, herror, -⟩ := Finder.tables_of_fault (w := c.world s) hfault
  rw [Finder.listingFailure, ListingFault.goes_on hready hcalm hfault] at herror
  exact ⟨w, herror⟩

/-- Each candidate has its outcome, and its events are submitted. -/
theorem datasets_of_lists (hready : c.Ready s.login) (hcalm : Calm s) (h : c.Lists s names) :
    ∃ w, c.finder.datasets (c.scene s) (c.world s) = .ok (c.found s names) w ∧
      eventsOf w.trace = names.flatMap fun n => (c.outcome s n).events n := by
  obtain ⟨client, others, w₁, htables, hcatalog, hidle, hnone⟩ := tables_of_lists hready h
  have hanswers : AnswersBy (c.scene s).service (ConfigClient.lookup s.stores) w₁.config := by
    rw [config_of_tables_ok htables]
    exact answersBy_world c s
  obtain ⟨w₂, hvisit, -, hevents, -⟩ :=
    visitAll_of_answers (goesOn_of_calm (c := c) hcalm) names hanswers hidle
  have houtcome : ∀ n, Discovery.outcome c.finder (c.scene s) (ConfigClient.lookup s.stores) ()
      client n = c.outcome s n := by
    intro n
    rw [Context.outcome, ← hcatalog]
    rfl
  have hkept : ∀ n, ((c.outcome s n).events n).filter (keeps (c.scene s).sink)
      = (c.outcome s n).events n := by
    intro n
    exact List.filter_eq_self.2 fun _ _ => rfl
  simp only [houtcome, hkept, hnone, List.nil_append] at hvisit hevents
  exact ⟨w₂, (bind_of_ok htables _).trans hvisit, hevents⟩

theorem datasets_of_fails (hready : c.Ready s.login) (hcalm : Calm s)
    (h : c.FailsToList s cause) :
    ∃ w, c.finder.datasets (c.scene s) (c.world s) = .error (.unlisted cause) w := by
  obtain ⟨w, htables⟩ := tables_of_fails hready hcalm h
  exact ⟨w, bind_of_error htables _⟩

/-- The failures among the events of candidates are those of the candidates that fail. -/
theorem named_failed (c : Context) (s : Surroundings) (names : List TableName) :
    Event.named Event.failedName (names.flatMap fun n => (c.outcome s n).events n)
      = (c.failed s names).map fun p => Event.failed p.1 p.2 := by
  induction names with
  | nil => rfl
  | cons n names ih =>
    rw [List.flatMap_cons, Event.named_append, ih, Outcome.named_failed, failed, failed,
      List.filterMap_cons]
    cases (c.outcome s n).failure? with
    | none => rfl
    | some failure => rfl

end Context

/-! ## Runs -/

theorem failureRow_failed (n : TableName) (failure : Failure) :
    Report.failureRow (Event.failed n failure) = [n.text, failure.described] := by
  simp [Report.failureRow, Event.failed, Settings.lastValue?, Event.urnKey, Event.contextKey]

section Runs

variable [Escaping] {s : Surroundings} {options : JobOptions} {c : Context} {names : List TableName}
  {cause : Failure}

theorem runCommand_of_ready [CharacterNames] (h : Context.ofOptions s.login options = .ok c)
    (name : CommandName) (command : Command) (hcommand : readCommand name [] = .ok command) :
    (runCommand s options name []).printed = (c.run s command).1.printed ∧
      (runCommand s options name []).ending = (c.run s command).1.ending := by
  rw [runCommand, h]
  dsimp only
  rw [hcommand]
  exact ⟨rfl, rfl⟩

theorem run_tables_of_ok {w : World ConfigState}
    (h : c.finder.tables (c.scene s) (c.world s) = .ok names w) :
    (c.run s .tables).1 = Report.tables (.ok names) := by
  simp only [Context.run, ran, h]

theorem run_tables_of_error {failure : Failure} {w : World ConfigState}
    (h : c.finder.tables (c.scene s) (c.world s) = .error failure w) :
    (c.run s .tables).1 = Report.tables (.error failure) := by
  simp only [Context.run, ran, h]

theorem run_datasets_of_ok {found : List (Dataset Unit)} {w : World ConfigState}
    (h : c.finder.datasets (c.scene s) (c.world s) = .ok found w) :
    (c.run s .datasets).1 = Report.datasets (.ok found) (eventsOf w.trace) := by
  simp only [Context.run, ran, h]

theorem run_datasets_of_error {failure : Failure} {w : World ConfigState}
    (h : c.finder.datasets (c.scene s) (c.world s) = .error failure w) :
    (c.run s .datasets).1
      = Report.datasets (.error failure : Except Failure (List (Dataset Unit)))
          (eventsOf w.trace) := by
  simp only [Context.run, ran, h]

/-- What the account of the datasets says of a candidate. -/
def Context.AccountsFor (c : Context) (s : Surroundings) (datasets : Session) (n : TableName) :
    Prop :=
  match c.outcome s n with
  | .found d => (Report.datasetRow d).map escaped ∈ rowsOf "Datasets" datasets.printed
  | .failed _ failure =>
    [escaped n.text, escaped failure.described] ∈ rowsOf "Failed datasets" datasets.printed
  | .optedOut => ∃ own, c.settings s n = .ok own ∧
      own.boolean Finder.optOutKey false = .ok true

/-- What two runs tell of candidates, one of their names and one of their datasets. -/
structure Context.Accounts (c : Context) (s : Surroundings) (names : List TableName)
    (tables datasets : Session) : Prop where
  listed : tables.ending = .exit 0
  candidates : rowsOf "Accepted tables" tables.printed = shown (names.map fun n => [n.db, n.table])
  found : rowsOf "Datasets" datasets.printed = shown ((c.found s names).map Report.datasetRow)
  /-- A row for each candidate that fails, in the order of the candidates. -/
  failed : rowsOf "Failed datasets" datasets.printed
    = shown ((c.failed s names).map fun p => [p.1.text, p.2.described])
  each : ∀ n ∈ names, c.AccountsFor s datasets n
  once : (rowsOf "Datasets" datasets.printed).length
    + (rowsOf "Failed datasets" datasets.printed).length + (c.optedOut s names).length
    = (rowsOf "Accepted tables" tables.printed).length
  success : c.failed s names = [] → datasets.ending = .exit 0 ∧
    datasets.printed.getLast?
      = some (.success ("Discovered " ++ toString (c.found s names).length ++ " dataset(s)."))
  failure : c.failed s names ≠ [] → datasets.ending = .exit 1 ∧
    datasets.printed.getLast?
      = some (.error ("Failed to create " ++ toString (c.failed s names).length
        ++ " dataset(s)."))

/-- A candidate has its row, if its outcome calls for one. -/
theorem Context.accountsFor_of_rows {datasets : Session} {n : TableName} (hn : n ∈ names)
    (hfound : rowsOf "Datasets" datasets.printed
      = shown ((c.found s names).map Report.datasetRow))
    (hfailed : rowsOf "Failed datasets" datasets.printed
      = shown ((c.failed s names).map fun p => [p.1.text, p.2.described])) :
    c.AccountsFor s datasets n := by
  unfold Context.AccountsFor
  rw [hfound, hfailed]
  cases houtcome : c.outcome s n with
  | found d =>
    have hmem : d ∈ c.found s names :=
      List.mem_filterMap.2 ⟨n, hn, by rw [houtcome]; rfl⟩
    exact List.mem_map_of_mem (List.mem_map_of_mem hmem)
  | failed asked failure =>
    have hmem : (n, failure) ∈ c.failed s names :=
      List.mem_filterMap.2 ⟨n, hn, by rw [houtcome]; rfl⟩
    exact List.mem_map_of_mem (List.mem_map_of_mem hmem)
  | optedOut => exact Outcome.ofAnswers_eq_optedOut houtcome

variable [CharacterNames]

theorem accounts_of_lists (hoptions : Context.ofOptions s.login options = .ok c) (hcalm : Calm s)
    (h : c.Lists s names) :
    c.Accounts s names (runCommand s options .tables []) (runCommand s options .datasets []) := by
  have hready := ready_of_ofOptions hoptions
  obtain ⟨client, others, w₁, htables, -⟩ := Context.tables_of_lists hready h
  obtain ⟨w₂, hdatasets, hevents⟩ := Context.datasets_of_lists hready hcalm h
  obtain ⟨htold, hended⟩ := runCommand_of_ready hoptions .tables .tables rfl
  obtain ⟨htold', hended'⟩ := runCommand_of_ready hoptions .datasets .datasets rfl
  rw [run_tables_of_ok htables] at htold hended
  rw [run_datasets_of_ok hdatasets, hevents] at htold' hended'
  obtain ⟨hfound, hfailed⟩ := rowsOf_datasets (c.found s names)
    (names.flatMap fun n => (c.outcome s n).events n)
  obtain ⟨hclosing, hcode⟩ := closing_datasets (c.found s names)
    (names.flatMap fun n => (c.outcome s n).events n)
  rw [Context.named_failed, List.map_map] at hfailed
  rw [Context.named_failed, List.isEmpty_map, List.length_map] at hclosing
  rw [Context.named_failed, List.isEmpty_map] at hcode
  have hrows : (Report.failureRow ∘ fun p : TableName × Failure => Event.failed p.1 p.2)
      = fun p => [p.1.text, p.2.described] := by
    funext p
    exact failureRow_failed p.1 p.2
  rw [hrows, ← htold'] at hfailed
  rw [← htold'] at hfound hclosing
  rw [← hended'] at hcode
  have hcandidates := rowsOf_tables names
  rw [← htold] at hcandidates
  refine ⟨hended.trans (ending_tables names), hcandidates, hfound, hfailed, ?_, ?_, ?_, ?_⟩
  · intro n hn
    exact Context.accountsFor_of_rows hn hfound hfailed
  · rw [hcandidates, hfound, hfailed]
    simp only [shown, List.length_map]
    exact Outcome.count_outcomes (c.outcome s) names
  · intro hnone
    rw [hnone] at hclosing hcode
    exact ⟨hcode, hclosing⟩
  · intro hsome
    have hnot : (c.failed s names).isEmpty = false := List.isEmpty_eq_false_iff.2 hsome
    rw [hnot] at hclosing hcode
    exact ⟨hcode, hclosing⟩

/-- What both commands print when a listing fails. -/
theorem printed_of_fails (hoptions : Context.ofOptions s.login options = .ok c) (hcalm : Calm s)
    (h : c.FailsToList s cause) :
    (runCommand s options .tables []).printed
        = [.status "Listing catalog tables...",
          .error (escaped (Failure.unlisted cause).message)] ∧
      (runCommand s options .tables []).ending = .exit 1 ∧
      (runCommand s options .datasets []).printed
        = [.status "Discovering datasets...",
          .error (escaped (Failure.unlisted cause).message)] ∧
      (runCommand s options .datasets []).ending = .exit 1 := by
  have hready := ready_of_ofOptions hoptions
  obtain ⟨w₁, htables⟩ := Context.tables_of_fails hready hcalm h
  obtain ⟨w₂, hdatasets⟩ := Context.datasets_of_fails hready hcalm h
  obtain ⟨htold, hended⟩ := runCommand_of_ready hoptions .tables .tables rfl
  obtain ⟨htold', hended'⟩ := runCommand_of_ready hoptions .datasets .datasets rfl
  rw [run_tables_of_error htables] at htold hended
  rw [run_datasets_of_error hdatasets] at htold' hended'
  exact ⟨htold, hended, htold', hended'⟩

/-- In calm surroundings the two commands of a job that is set up tell one account of the catalog.
If its listing comes to an end, the tables are the candidates of the datasets, and each candidate
has one row among the datasets or one row among the failures or opts out by its settings; the
closing line counts the failures, if there are any, or the datasets.  If the listing fails, both
commands tell of nothing but this.  The tables end with code 1 exactly if the listing fails; the
datasets end with code 1 exactly if the listing or a candidate fails, and otherwise with code 0. -/
theorem commands_agree (hoptions : Context.ofOptions s.login options = .ok c) (hcalm : Calm s) :
    ((∃ names, c.Lists s names ∧ c.Accounts s names (runCommand s options .tables [])
          (runCommand s options .datasets [])) ∨
      ∃ cause, c.FailsToList s cause ∧
        (runCommand s options .tables []).printed
          = [.status "Listing catalog tables...",
            .error (escaped (Failure.unlisted cause).message)] ∧
        (runCommand s options .datasets []).printed
          = [.status "Discovering datasets...",
            .error (escaped (Failure.unlisted cause).message)]) ∧
    ((runCommand s options .tables []).ending.code = 1 ↔ ∃ cause, c.FailsToList s cause) ∧
    ((runCommand s options .datasets []).ending.code = 1 ↔
      (∃ cause, c.FailsToList s cause) ∨ ∃ names, c.Lists s names ∧ c.failed s names ≠ []) ∧
    ((runCommand s options .datasets []).ending.code = 0 ∨
      (runCommand s options .datasets []).ending.code = 1) := by
  rcases Context.lists_or_fails c s with ⟨names, hlists⟩ | ⟨cause, hfails⟩
  · have haccounts := accounts_of_lists hoptions hcalm hlists
    have hnot : ¬∃ cause, c.FailsToList s cause := by
      intro hfails
      obtain ⟨cause, hcause⟩ := hfails
      exact Context.not_fails_of_lists hlists hcause
    refine ⟨Or.inl ⟨names, hlists, haccounts⟩, ?_, ?_, ?_⟩
    · rw [haccounts.listed]
      exact iff_of_false (by decide) hnot
    · by_cases hnone : c.failed s names = []
      · rw [(haccounts.success hnone).1]
        refine iff_of_false (by decide) ?_
        intro hfails
        rcases hfails with hfails | ⟨names', hlists', hsome⟩
        · exact hnot hfails
        · rw [← Context.lists_unique hlists hlists'] at hsome
          exact hsome hnone
      · rw [(haccounts.failure hnone).1]
        exact iff_of_true rfl (Or.inr ⟨names, hlists, hnone⟩)
    · by_cases hnone : c.failed s names = []
      · rw [(haccounts.success hnone).1]
        exact Or.inl rfl
      · rw [(haccounts.failure hnone).1]
        exact Or.inr rfl
  · obtain ⟨htold, hended, htold', hended'⟩ := printed_of_fails hoptions hcalm hfails
    refine ⟨Or.inr ⟨cause, hfails, htold, htold'⟩, ?_, ?_, ?_⟩
    · rw [hended]
      exact iff_of_true rfl ⟨cause, hfails⟩
    · rw [hended']
      exact iff_of_true rfl (Or.inl ⟨cause, hfails⟩)
    · rw [hended']
      exact Or.inr rfl

end Runs

/-! ## A run with every outcome -/

/-- A workspace with a table that is described, one that is not, and one that opts out in the
store. -/
def mixed : Surroundings where
  files := .empty
  stores := (FileTree.empty.write ["store", "_CONFIG_STORE"] []).write
    ["store", "hive", "db", "out", "main.conf"]
    (Text.Utf8.encode "is.blacklisted=yes".toList)
  login _ host := .ok host
  workspace := {
    schemas := fun _ => .ok [⟨some "db", none⟩]
    tables := fun _ _ => .ok [⟨some "good"⟩, ⟨some "bad"⟩, ⟨some "out"⟩]
    table := fun fullName =>
      if fullName = "hive_metastore.db.bad" then .error ⟨.timeout, none⟩ else .ok {} }

def mixedOptions : JobOptions :=
  ⟨none, none, [Job.whitelistKey ++ "=db", Job.storeUriKey ++ "=file:///store"], false⟩

theorem calm_mixed : Calm mixed := by
  refine ⟨nofun, nofun, nofun, ?_⟩
  intro fullName o h
  change (if _ then _ else _) = _ at h
  split at h
  · obtain rfl := Except.error.inj h
    decide
  · cases h

theorem commands_agree_of_three :
    ∃ c, Context.ofOptions mixed.login mixedOptions = .ok c ∧ Calm mixed ∧
      ∃ names, c.Lists mixed names ∧
        c.Accounts mixed names (runCommand mixed mixedOptions .tables [])
          (runCommand mixed mixedOptions .datasets []) ∧
        rowsOf "Accepted tables" (runCommand mixed mixedOptions .tables []).printed
          = [["db", "good"], ["db", "bad"], ["db", "out"]] ∧
        rowsOf "Datasets" (runCommand mixed mixedOptions .datasets []).printed
          = [["db.good", "", "", ""]] ∧
        rowsOf "Failed datasets" (runCommand mixed mixedOptions .datasets []).printed
          = [["db.bad", "TimeoutError()"]] := by
  have hset : (Context.ofOptions mixed.login mixedOptions).toOption.isSome = true := by
    decide +kernel
  cases hoptions : Context.ofOptions mixed.login mixedOptions with
  | error failure =>
    rw [hoptions] at hset
    cases hset
  | ok c =>
    obtain ⟨hagree, htables, -, -⟩ := commands_agree hoptions calm_mixed
    have hlisted : ¬∃ cause, c.FailsToList mixed cause := by
      rw [← htables]
      decide +kernel
    rcases hagree with ⟨names, hlists, haccounts⟩ | ⟨cause, hfails, -⟩
    · refine ⟨c, rfl, calm_mixed, names, hlists, haccounts, ?_, ?_, ?_⟩
      · decide +kernel
      · decide +kernel
      · decide +kernel
    · exact absurd ⟨cause, hfails⟩ hlisted

end Commands
end CatalogScout
