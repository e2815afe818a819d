import CatalogScout.Proofs.Commands.Agreement
import CatalogScout.Proofs.Text.Tags

/-!
How the commands write what they are given.

Each text that goes to the console is a phrase: wording of the command, and in it something that the
command was given, such as a name, a key, a value, a message or a count.  The account of a command
lists its phrases.  All of them are written with what was given escaped, so that no tag touches it,
but for the headings of the settings of a table: these have the name of the table as it is.  So a
command escapes all that it was given unless it tells the settings of a table whose name does not
show itself.
-/

namespace CatalogScout

open Discovery Markup

/-- Wording around something that is given. -/
structure Phrase where
  front : String
  given : String
  back : String
deriving DecidableEq

namespace Phrase

def own (wording : String) : Phrase := ⟨wording, "", ""⟩

def alone (given : String) : Phrase := ⟨"", given, ""⟩

def error (message : String) : Phrase := ⟨"[err]✗[/] ", message, ""⟩

def marked (mark front given back : String) : Phrase := ⟨mark ++ front, given, back⟩

/-- The phrase with what is given as it is. -/
def bare (p : Phrase) : String := p.front ++ p.given ++ p.back

def wording (p : Phrase) : String × String := (p.front, p.back)

/-- No tag touches what is shown within the wording. -/
def Shelters (p : Phrase) (shown : String) : Prop :=
  Untouched p.front.toList shown.toList p.back.toList

theorem bare_alone (given : String) : (alone given).bare = given := by
  rw [bare, alone, String.empty_append, String.append_empty]

theorem bare_marked (mark front given back : String) :
    (marked mark front given back).bare = mark ++ (front ++ given ++ back) := by
  rw [bare, marked, String.append_assoc, String.append_assoc, String.append_assoc]

variable [Escaping]

/-- The phrase with what is given escaped. -/
def escaped (p : Phrase) : String := p.front ++ Markup.escaped p.given ++ p.back

theorem escaped_alone (given : String) : (alone given).escaped = Markup.escaped given := by
  rw [escaped, alone, String.empty_append, String.append_empty]

theorem escaped_error (message : String) :
    (error message).escaped = "[err]✗[/] " ++ Markup.escaped message := by
  rw [escaped, error, String.append_empty]

variable [LawfulEscaping]

theorem escaped_eq_bare_iff (p : Phrase) : p.escaped = p.bare ↔ Plain p.given.toList := by
  rw [escaped, bare, String.append_left_inj, String.append_right_inj, escaped_eq_self_iff]

theorem escaped_own (wording : String) : (own wording).escaped = wording := by
  have hempty : Markup.escaped "" = "" := (escaped_eq_self_iff "").2 (by decide)
  rw [escaped, own, hempty, String.append_empty, String.append_empty]

/-- A count shows itself. -/
theorem escaped_count (mark front back : String) (n : Nat) :
    (marked mark front (toString n) back).escaped = mark ++ (front ++ toString n ++ back) := by
  have hbare := (escaped_eq_bare_iff (marked mark front (toString n) back)).2 (plain_toString n)
  rw [hbare, bare_marked]

end Phrase

/-- The texts that are handed to the console. -/
def Printed.texts : Printed → List String
  | .line markup => [markup]
  | .status text => [text]
  | .table title columns rows => title :: columns ++ rows.flatten

namespace Commands

/-! ## Wording -/

/-- The wording of the commands, in front of what is given and behind it. -/
def wordings : List (String × String) :=
  [("", ""), ("[err]✗[/] ", ""),
    ("Listing catalog tables...", ""), ("[warn]⚠[/] No tables found.", ""),
    ("[title]Tables[/]", ""), ("[title]›[/] Tables: ", ""), ("Accepted tables", ""),
    ("Database", ""), ("Table", ""),
    ("Discovering datasets...", ""), ("[warn]⚠[/] No datasets found.", ""),
    ("[title]Datasets[/]", ""), ("[title]›[/] Datasets: ", ""), ("Datasets", ""),
    ("Dataset", ""), ("Type", ""), ("Format", ""), ("Location", ""),
    ("Failed datasets", ""), ("Error", ""),
    ("[err]✗[/] Failed to create ", " dataset(s)."), ("[ok]✓[/] Discovered ", " dataset(s)."),
    ("[warn]⚠[/] No config for ", "."), ("[title]Config for ", "[/]"), ("Key", ""), ("Value", "")]

/-- Wording leaves no bracket open in front of what is given and closes none behind it. -/
theorem surrounds_of_mem_wordings : ∀ w ∈ wordings, Surrounds w.1.toList w.2.toList := by
  decide +kernel

theorem shelters_iff {p : Phrase} (h : p.wording ∈ wordings) (shown : String) :
    p.Shelters shown ↔ Disarmed shown.toList :=
  (surrounds_of_mem_wordings _ h).untouched_iff

/-! ## Accounts -/

def phrasesOfRows (columns : List String) (rows : List (List String)) : List Phrase :=
  columns.map .own ++ rows.flatten.map .alone

def phrasesOfGrid (title : String) (columns : List String) (rows : List (List String)) :
    List Phrase :=
  .own title :: phrasesOfRows columns rows

def phrasesOfListingFailure : Failure → List Phrase
  | .unlisted cause => [.error (Failure.unlisted cause).message]
  | _ => []

def phrasesOfNames : List TableName → List Phrase
  | [] => [.own "[warn]⚠[/] No tables found."]
  | names@(_ :: _) =>
    [.own "[title]Tables[/]", .marked "[title]›[/] " "Tables: " (toString names.length) ""] ++
      phrasesOfGrid "Accepted tables" ["Database", "Table"] (names.map fun n => [n.db, n.table])

def phrasesOfTables (found : Except Failure (List TableName)) : List Phrase :=
  .own "Listing catalog tables..." ::
    match found with
    | .ok names => phrasesOfNames names
    | .error failure => phrasesOfListingFailure failure

section Datasets

variable {Handle : Type}

def phrasesOfFound : List (Dataset Handle) → List Phrase
  | [] => [.own "[warn]⚠[/] No datasets found."]
  | found@(_ :: _) =>
    [.own "[title]Datasets[/]", .marked "[title]›[/] " "Datasets: " (toString found.length) ""] ++
      phrasesOfGrid "Datasets" ["Dataset", "Type", "Format", "Location"]
        (found.map Report.datasetRow)

def phrasesOfOutcome (found : List (Dataset Handle)) : List Event → List Phrase
  | [] => [.marked "[ok]✓[/] " "Discovered " (toString found.length) " dataset(s)."]
  | failures@(_ :: _) =>
    phrasesOfGrid "Failed datasets" ["Dataset", "Error"] (failures.map Report.failureRow) ++
      [.marked "[err]✗[/] " "Failed to create " (toString failures.length) " dataset(s)."]

def phrasesOfDatasets (found : Except Failure (List (Dataset Handle))) (events : List Event) :
    List Phrase :=
  .own "Discovering datasets..." ::
    match found with
    | .ok found =>
      phrasesOfFound found ++ phrasesOfOutcome found (Event.named Event.failedName events)
    | .error failure => phrasesOfListingFailure failure

end Datasets

/-- What a command tells: headings of the settings of a table, and all the rest. -/
structure Account where
  headings : List Phrase
  body : List Phrase

namespace Account

def phrases (a : Account) : List Phrase := a.headings ++ a.body

/-- The texts of an account, with bare headings. -/
def texts [Escaping] (a : Account) : List String :=
  a.headings.map Phrase.bare ++ a.body.map Phrase.escaped

def ofSettings (n : TableName) (own : Settings) : Account :=
  if own.isEmpty then ⟨[.marked "[warn]⚠[/] " "No config for " n.text "."], []⟩
  else
    ⟨[.marked "[title]" "Config for " n.text "[/]", .alone n.text],
      phrasesOfRows ["Key", "Value"] (own.entries.map fun (key, value) => [key, value])⟩

def ofConfig (n : TableName) : Except Failure Settings → Account
  | .ok own => ofSettings n own
  | .error failure =>
    if failure.stopsRun then ⟨[], []⟩
    else ⟨[], [.error ("Failed to resolve config for " ++ n.text ++ ": " ++ failure.message)]⟩

end Account

def Context.account (c : Context) (s : Surroundings) : Command → Account
  | .tables => ⟨[], phrasesOfTables (ran (c.finder.tables (c.scene s)) (c.world s)).1⟩
  | .datasets =>
    let (found, trace) := ran (c.finder.datasets (c.scene s)) (c.world s)
    ⟨[], phrasesOfDatasets found (eventsOf trace)⟩
  | .config text =>
    match TableName.parse text with
    | .error failure => ⟨[], [.error failure.message]⟩
    | .ok n => .ofConfig n (c.settings s n)

/-- All the texts that a command hands to the console. -/
def Context.texts [Escaping] (c : Context) (s : Surroundings) (command : Command) :
    List String :=
  (c.run s command).1.printed.flatMap Printed.texts

/-- The command tells the settings of a table. -/
def Context.Shows (c : Context) (s : Surroundings) (command : Command) (n : TableName) : Prop :=
  ∃ text own, command = .config text ∧ TableName.parse text = .ok n ∧ c.settings s n = .ok own

/-! ## Headings -/

theorem given_ofSettings (n : TableName) (own : Settings) :
    (Account.ofSettings n own).headings ≠ [] ∧
      ∀ p ∈ (Account.ofSettings n own).headings, p.given = n.text := by
  rw [Account.ofSettings]
  split
  · exact ⟨List.cons_ne_nil _ _, List.forall_mem_singleton.2 rfl⟩
  · refine ⟨List.cons_ne_nil _ _, ?_⟩
    exact List.forall_mem_cons.2 ⟨rfl, List.forall_mem_singleton.2 rfl⟩

theorem headings_ofConfig_error (n : TableName) (failure : Failure) :
    (Account.ofConfig n (.error failure)).headings = [] := by
  rw [Account.ofConfig]
  split
  · rfl
  · rfl

section Headings

variable {c : Context} {s : Surroundings} {command : Command} {n : TableName} {p : Phrase}

theorem exists_heading (h : c.Shows s command n) :
    ∃ p ∈ (c.account s command).headings, p.given = n.text := by
  obtain ⟨text, own, rfl, hparse, hsettings⟩ := h
  obtain ⟨hsome, hgiven⟩ := given_ofSettings n own
  obtain ⟨p, hp⟩ := List.exists_mem_of_ne_nil _ hsome
  refine ⟨p, ?_, hgiven p hp⟩
  simp only [Context.account, hparse, hsettings]
  exact hp

/-- Only the settings of a table have headings, and these have its name. -/
theorem given_of_mem_headings (h : p ∈ (c.account s command).headings) :
    ∃ n, c.Shows s command n ∧ p.given = n.text := by
  cases command with
  | tables => exact absurd h List.not_mem_nil
  | datasets => exact absurd h List.not_mem_nil
  | config text =>
    simp only [Context.account] at h
    cases hparse : TableName.parse text with
    | error failure =>
      rw [hparse] at h
      exact absurd h List.not_mem_nil
    | ok n =>
      simp only [hparse] at h
      cases hsettings : c.settings s n with
      | error failure =>
        rw [hsettings, headings_ofConfig_error] at h
        exact absurd h List.not_mem_nil
      | ok own =>
        rw [hsettings] at h
        exact ⟨n, ⟨text, own, rfl, hparse, hsettings⟩, (given_ofSettings n own).2 p h⟩

end Headings

/-! ## What is printed -/

theorem worded_rows {columns : List String} (h : ∀ column ∈ columns, (column, "") ∈ wordings)
    (rows : List (List String)) : ∀ p ∈ phrasesOfRows columns rows, p.wording ∈ wordings :=
  List.forall_mem_append.2
    ⟨List.forall_mem_map.2 h, List.forall_mem_map.2 fun _ _ => List.mem_cons_self⟩

theorem worded_ofSettings (n : TableName) (own : Settings) :
    ∀ p ∈ (Account.ofSettings n own).phrases, p.wording ∈ wordings := by
  have hwarning : ("[warn]⚠[/] " ++ "No config for ", ".") ∈ wordings := by decide
  have hheader : ("[title]" ++ "Config for ", "[/]") ∈ wordings := by decide
  rw [Account.ofSettings]
  split
  · exact List.forall_mem_singleton.2 hwarning
  · refine List.forall_mem_append.2 ⟨?_, worded_rows (by decide) _⟩
    exact List.forall_mem_cons.2 ⟨hheader, List.forall_mem_singleton.2 List.mem_cons_self⟩

section Written

variable [Escaping]

theorem texts_tableOf [LawfulEscaping] (title : String) (columns : List String)
    (rows : List (List String)) :
    (Printed.tableOf title columns rows).texts
      = (phrasesOfGrid title columns rows).map Phrase.escaped := by
  have hcolumns : Phrase.escaped ∘ Phrase.own = id := funext Phrase.escaped_own
  have hcells : Phrase.escaped ∘ Phrase.alone = Markup.escaped := funext Phrase.escaped_alone
  rw [Printed.tableOf, Printed.texts, phrasesOfGrid, phrasesOfRows, List.cons_append,
    List.map_cons, Phrase.escaped_own, List.map_append, List.map_map, List.map_map, hcolumns,
    List.map_id, hcells, List.map_flatten]

/-- What is printed comes to phrases if these are its texts, in order, once they are escaped, and if
all the wording is of the commands. -/
structure ComesTo (printed : List Printed) (phrases : List Phrase) : Prop where
  texts : printed.flatMap Printed.texts = phrases.map Phrase.escaped
  worded : ∀ p ∈ phrases, p.wording ∈ wordings

namespace ComesTo

theorem nil : ComesTo [] [] := ⟨rfl, List.forall_mem_nil _⟩

theorem append {a b : List Printed} {p q : List Phrase} (ha : ComesTo a p) (hb : ComesTo b q) :
    ComesTo (a ++ b) (p ++ q) where
  texts := by rw [List.flatMap_append, ha.texts, hb.texts, List.map_append]
  worded := List.forall_mem_append.2 ⟨ha.worded, hb.worded⟩

theorem of_text {printed : Printed} {p : Phrase} (h : printed.texts = [p.escaped])
    (hworded : p.wording ∈ wordings) : ComesTo [printed] [p] where
  texts := by rw [List.flatMap_singleton, h, List.map_singleton]
  worded := List.forall_mem_singleton.2 hworded

theorem error (message : String) : ComesTo [.error (escaped message)] [.error message] :=
  of_text (by rw [Phrase.escaped_error, Printed.error, Printed.texts])
    (show ("[err]✗[/] ", "") ∈ wordings by decide)

theorem listingFailure (failure : Failure) :
    ComesTo (Report.ofListingFailure failure).printed (phrasesOfListingFailure failure) := by
  cases failure with
  | unlisted cause => exact error _
  | _ => exact nil

variable [LawfulEscaping]

theorem line {wording : String} (h : (wording, "") ∈ wordings) :
    ComesTo [.line wording] [.own wording] :=
  of_text (by rw [Phrase.escaped_own, Printed.texts]) h

theorem status {wording : String} (h : (wording, "") ∈ wordings) :
    ComesTo [.status wording] [.own wording] :=
  of_text (by rw [Phrase.escaped_own, Printed.texts]) h

theorem count (mark front back : String) (h : (mark ++ front, back) ∈ wordings) (n : Nat) :
    ComesTo [.line (mark ++ (front ++ toString n ++ back))]
      [.marked mark front (toString n) back] :=
  of_text (by rw [Phrase.escaped_count, Printed.texts]) h

theorem last_count (mark front : String) (h : (mark ++ front, "") ∈ wordings) (n : Nat) :
    ComesTo [.line (mark ++ (front ++ toString n))] [.marked mark front (toString n) ""] :=
  of_text (by rw [Phrase.escaped_count, String.append_empty, Printed.texts]) h

theorem grid {title : String} {columns : List String} (htitle : (title, "") ∈ wordings)
    (hcolumns : ∀ column ∈ columns, (column, "") ∈ wordings) (rows : List (List String)) :
    ComesTo [.tableOf title columns rows] (phrasesOfGrid title columns rows) where
  texts := by rw [List.flatMap_singleton, texts_tableOf]
  worded := List.forall_mem_cons.2 ⟨htitle, worded_rows hcolumns rows⟩

theorem names (names : List TableName) :
    ComesTo (Report.tablesFound names).printed (phrasesOfNames names) := by
  cases names with
  | nil => exact line (by decide)
  | cons n names =>
    have hheader : ComesTo [.header "Tables"] [.own "[title]Tables[/]"] := line (by decide)
    have hcount := last_count "[title]›[/] " "Tables: " (by decide) (n :: names).length
    exact hheader.append (hcount.append (grid (by decide) (by decide) _))

theorem tables (found : Except Failure (List TableName)) :
    ComesTo (Report.tables found).printed (phrasesOfTables found) := by
  have hstatus : ComesTo [.status "Listing catalog tables..."] [.own "Listing catalog tables..."] :=
    status (by decide)
  cases found with
  | ok found => exact hstatus.append (names found)
  | error failure => exact hstatus.append (listingFailure failure)

section Datasets

variable {Handle : Type}

theorem found (found : List (Dataset Handle)) :
    ComesTo (Report.datasetLines found) (phrasesOfFound found) := by
  cases found with
  | nil => exact line (by decide)
  | cons d found =>
    have hheader : ComesTo [.header "Datasets"] [.own "[title]Datasets[/]"] := line (by decide)
    have hcount := last_count "[title]›[/] " "Datasets: " (by decide) (d :: found).length
    exact hheader.append (hcount.append (grid (by decide) (by decide) _))

theorem outcome (found : List (Dataset Handle)) (failures : List Event) :
    ComesTo (Report.outcome found failures).printed (phrasesOfOutcome found failures) := by
  cases failures with
  | nil => exact count "[ok]✓[/] " "Discovered " " dataset(s)." (by decide) found.length
  | cons e failures =>
    have hcount := count "[err]✗[/] " "Failed to create " " dataset(s)." (by decide)
      (e :: failures).length
    exact (grid (by decide) (by decide) _).append hcount

theorem datasets (answer : Except Failure (List (Dataset Handle))) (events : List Event) :
    ComesTo (Report.datasets answer events).printed (phrasesOfDatasets answer events) := by
  have hstatus : ComesTo [.status "Discovering datasets..."] [.own "Discovering datasets..."] :=
    status (by decide)
  cases answer with
  | ok answer => exact hstatus.append ((found answer).append (outcome answer _))
  | error failure => exact hstatus.append (listingFailure failure)

end Datasets

end ComesTo

/-- What is printed is an account with bare headings, and all the wording is of the commands. -/
structure Account.PrintedAs (a : Account) (printed : List Printed) : Prop where
  texts : printed.flatMap Printed.texts = a.texts
  worded : ∀ p ∈ a.phrases, p.wording ∈ wordings

theorem ComesTo.printedAs {printed : List Printed} {phrases : List Phrase}
    (h : ComesTo printed phrases) : Account.PrintedAs ⟨[], phrases⟩ printed :=
  ⟨h.texts, h.worded⟩

theorem texts_ofJobFailure (failure : Failure) :
    ∀ text ∈ (Report.ofJobFailure failure).printed.flatMap Printed.texts,
      text = (Phrase.error failure.message).escaped := by
  rw [Report.ofJobFailure, Phrase.escaped_error]
  split
  · exact List.forall_mem_singleton.2 rfl
  · exact List.forall_mem_nil _

theorem run_config {c : Context} {s : Surroundings} {text : String} {n : TableName}
    (h : TableName.parse text = .ok n) :
    (c.run s (.config text)).1 = Report.config n (c.settings s n) := by
  have hanswer := (answersBy_world c s).answer_resolve c.finder.source n
  change _ = c.settings s n at hanswer
  cases hsettings : c.settings s n with
  | ok own =>
    rw [hsettings] at hanswer
    simp only [Context.run, h, ran, resolve_ok hanswer]
  | error failure =>
    rw [hsettings] at hanswer
    simp only [Context.run, h, ran, resolve_error hanswer]

variable [LawfulEscaping]

theorem texts_settingsFound (n : TableName) (own : Settings) :
    (Report.settingsFound n own).printed.flatMap Printed.texts
      = (Account.ofSettings n own).texts := by
  rw [Report.settingsFound, Account.ofSettings]
  split
  · rw [Account.texts, List.map_singleton, Phrase.bare_marked]
    rfl
  · have htable := texts_tableOf n.text ["Key", "Value"]
      (own.entries.map fun (key, value) => [key, value])
    rw [phrasesOfGrid, List.map_cons, Phrase.escaped_own] at htable
    rw [Account.texts, List.map_cons, List.map_singleton, Phrase.bare_marked, Phrase.bare_alone]
    show _ :: (_ ++ []) = _
    rw [List.append_nil, htable, ← String.append_assoc]
    rfl

theorem printedAs_ofConfig (n : TableName) (found : Except Failure Settings) :
    (Account.ofConfig n found).PrintedAs (Report.config n found).printed := by
  cases found with
  | ok own => exact ⟨texts_settingsFound n own, worded_ofSettings n own⟩
  | error failure =>
    rw [Report.config, Account.ofConfig]
    split
    · exact ComesTo.nil.printedAs
    · exact (ComesTo.error _).printedAs

theorem printedAs_account (c : Context) (s : Surroundings) (command : Command) :
    (c.account s command).PrintedAs (c.run s command).1.printed := by
  cases command with
  | tables => exact (ComesTo.tables _).printedAs
  | datasets => exact (ComesTo.datasets _ _).printedAs
  | config text =>
    cases hparse : TableName.parse text with
    | error failure =>
      simp only [Context.run, Context.account, hparse]
      exact (ComesTo.error _).printedAs
    | ok n =>
      rw [run_config hparse]
      simp only [Context.account, hparse]
      exact printedAs_ofConfig n _

/-! ## What is escaped -/

theorem shelters_escaped {p : Phrase} (h : p.wording ∈ wordings) :
    p.Shelters (escaped p.given) := by
  rw [shelters_iff h]
  exact disarmed_escaped _

theorem texts_eq_escaped_iff (a : Account) :
    a.texts = a.phrases.map Phrase.escaped ↔ ∀ p ∈ a.headings, Plain p.given.toList := by
  rw [Account.texts, Account.phrases, List.map_append, List.append_cancel_right_eq,
    List.map_inj_left]
  exact forall₂_congr fun p _ => eq_comm.trans (Phrase.escaped_eq_bare_iff p)

/-- Let texts be escaped in any lawful way.  All that a command hands to the console is wording of
its own with something given in it, and what is given is escaped, so that no tag touches it, except
in the headings of the settings of a table.  These have the name of the table as it is, and it is
touched by no tag exactly if its brackets are disarmed.  So a command escapes all that it was given
exactly if it tells no settings, or those of a table with a plain name.  A job that is not set up
has its message escaped. -/
theorem given_escaped_below_headings (c : Context) (s : Surroundings) (command : Command) :
    c.texts s command = (c.account s command).headings.map Phrase.bare
        ++ (c.account s command).body.map Phrase.escaped ∧
      (∀ p ∈ (c.account s command).phrases,
        p.wording ∈ wordings ∧ p.Shelters (escaped p.given)) ∧
      (∀ p ∈ (c.account s command).headings, ∃ n, c.Shows s command n ∧ p.given = n.text ∧
        (p.Shelters n.text ↔ Disarmed n.text.toList)) ∧
      (c.texts s command = (c.account s command).phrases.map Phrase.escaped ↔
        ∀ n, c.Shows s command n → Plain n.text.toList) ∧
      ∀ failure, ∀ text ∈ (Report.ofJobFailure failure).printed.flatMap Printed.texts,
        text = (Phrase.error failure.message).escaped := by
  obtain ⟨htexts, hworded⟩ := printedAs_account c s command
  refine ⟨htexts, ?_, ?_, ?_, texts_ofJobFailure⟩
  · intro p hp
    exact ⟨hworded p hp, shelters_escaped (hworded p hp)⟩
  · intro p hp
    obtain ⟨n, hshows, hgiven⟩ := given_of_mem_headings hp
    exact ⟨n, hshows, hgiven, shelters_iff (hworded p (List.mem_append_left _ hp)) _⟩
  · rw [Context.texts, htexts, texts_eq_escaped_iff]
    constructor
    · intro hplain n hshows
      obtain ⟨p, hp, hgiven⟩ := exists_heading hshows
      exact hgiven ▸ hplain p hp
    · intro hplain p hp
      obtain ⟨n, hshows, hgiven⟩ := given_of_mem_headings hp
      exact hgiven ▸ hplain n hshows

end Written

/-! ## Brackets in a name, a key and a value -/

def bracketOptions : JobOptions :=
  ⟨none, none, [Job.whitelistKey ++ "=raw", "a[ok]=[b]"], false⟩

/-- The title of the settings is a name that is read with a tag in it, and no text is written like
this when it is escaped. -/
theorem tag_in_title :
    ∃ c, Context.ofOptions mixed.login bracketOptions = .ok c ∧
      TableName.parse "raw.t[old]" = .ok ⟨"raw", "t[old]"⟩ ∧
      c.texts mixed (.config "raw.t[old]")
        = ["[title]Config for raw.t[old][/]", "raw.t[old]", "Key", "Value",
          "a\\[ok]", "\\[b]", "hive.dataset.whitelist", "raw"] ∧
      c.texts mixed (.config "raw.t[old]")
        ≠ (c.account mixed (.config "raw.t[old]")).phrases.map Phrase.escaped ∧
      ReadsTag "raw.t[old]".toList "raw.t".toList "old".toList [] ∧
      ∀ given, escaped given ≠ "raw.t[old]" := by
  have htold : (Context.ofOptions mixed.login bracketOptions).toOption.map (fun c =>
      (c.texts mixed (.config "raw.t[old]"),
        decide (c.texts mixed (.config "raw.t[old]")
          = (c.account mixed (.config "raw.t[old]")).phrases.map Phrase.escaped)))
      = some (["[title]Config for raw.t[old][/]", "raw.t[old]", "Key", "Value",
          "a\\[ok]", "\\[b]", "hive.dataset.whitelist", "raw"], false) := by
    decide +kernel
  obtain ⟨c, hoptions, htold⟩ := Except.exists_of_toOption_map htold
  obtain ⟨htexts, hdiffer⟩ := Prod.mk.inj htold
  refine ⟨c, hoptions, rfl, htexts, of_decide_eq_false hdiffer, ⟨rfl, rfl, rfl⟩, ?_⟩
  intro given hgiven
  have hdisarmed := disarmed_escaped given
  rw [hgiven] at hdisarmed
  exact absurd (hdisarmed "raw.t".toList "old]".toList rfl rfl) (by decide)

theorem given_escaped_below_headings_of_brackets :
    ∃ c, Context.ofOptions mixed.login bracketOptions = .ok c ∧
      c.Shows mixed (.config "raw.t") ⟨"raw", "t"⟩ ∧
      (∀ n, c.Shows mixed (.config "raw.t") n → Plain n.text.toList) ∧
      c.texts mixed (.config "raw.t")
        = (c.account mixed (.config "raw.t")).phrases.map Phrase.escaped ∧
      c.texts mixed (.config "raw.t")
        = ["[title]Config for raw.t[/]", "raw.t", "Key", "Value",
          "a\\[ok]", "\\[b]", "hive.dataset.whitelist", "raw"] ∧
      Phrase.alone "a[ok]" ∈ (c.account mixed (.config "raw.t")).phrases ∧
      (Phrase.alone "a[ok]").Shelters "a\\[ok]" ∧
      Phrase.alone "raw.t[old]" ∈ (c.account mixed (.config "raw.t[old]")).headings ∧
      ¬(Phrase.alone "raw.t[old]").Shelters "raw.t[old]" := by
  have htold : (Context.ofOptions mixed.login bracketOptions).toOption.map (fun c =>
      ((c.settings mixed ⟨"raw", "t"⟩).toOption.isSome, c.texts mixed (.config "raw.t"),
        decide (Phrase.alone "a[ok]" ∈ (c.account mixed (.config "raw.t")).phrases),
        decide (Phrase.alone "raw.t[old]"
          ∈ (c.account mixed (.config "raw.t[old]")).headings)))
      = some (true, ["[title]Config for raw.t[/]", "raw.t", "Key", "Value",
          "a\\[ok]", "\\[b]", "hive.dataset.whitelist", "raw"], true, true) := by
    decide +kernel
  obtain ⟨c, hoptions, htold⟩ := Except.exists_of_toOption_map htold
  simp only [Prod.mk.injEq, decide_eq_true_eq] at htold
  obtain ⟨hsettings, htexts, hkey, hheading⟩ := htold
  have hshows : c.Shows mixed (.config "raw.t") ⟨"raw", "t"⟩ := by
    cases hown : c.settings mixed ⟨"raw", "t"⟩ with
    | error failure =>
      rw [hown] at hsettings
      cases hsettings
    | ok own => exact ⟨"raw.t", own, rfl, rfl, hown⟩
  have hplain : ∀ n, c.Shows mixed (.config "raw.t") n → Plain n.text.toList := by
    rintro n ⟨text, own, htext, hparse, -⟩
    obtain rfl := Command.config.inj htext
    obtain rfl : ⟨"raw", "t"⟩ = n := Except.ok.inj hparse
    decide
  obtain ⟨-, hphrases, -, hiff, -⟩ := given_escaped_below_headings c mixed (.config "raw.t")
  obtain ⟨-, -, hheadings, -, -⟩ := given_escaped_below_headings c mixed (.config "raw.t[old]")
  obtain ⟨n, -, hgiven, hshelters⟩ := hheadings _ hheading
  refine ⟨c, hoptions, hshows, hplain, hiff.2 hplain, htexts, hkey, (hphrases _ hkey).2, hheading,
    ?_⟩
  rw [← hgiven] at hshelters
  intro hsheltered
  exact absurd (hshelters.1 hsheltered "raw.t".toList "old]".toList rfl rfl) (by decide)

end Commands
end CatalogScout
