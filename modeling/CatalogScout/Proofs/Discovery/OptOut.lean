import CatalogScout.Proofs.Discovery.Ledger
import CatalogScout.Proofs.Store.Flags

/-!
Tables that opt out of a job by their settings in a store.

Four layers lie between a settings file and the visit of a table: the files on the way to the
table's node are merged, what lies within the job's scope is kept, a word is read as yes or no, and
a word that is neither is a failure of this one table.  The visit is told here by the files
themselves.
-/

namespace CatalogScout
namespace Discovery

open Text ConfigClient ConfigSource Commands CatalogScout.Path Settings

variable {State Handle : Type}

/-! ## What a run keeps -/

/-- A client over file trees answers by the tree, whatever it was asked before. -/
theorem answersBy_service {c : ConfigClient FileTree} (h : Tended c) (t : FileTree) :
    AnswersBy (ConfigClient.service .standard) (lookup t) (t, c) := by
  intro asked uri
  induction asked generalizing c with
  | nil => exact h.get_answer t uri
  | cons u asked ih => exact ih (h.get_client t u)

section Kept

variable {f : Finder} {scene : Scene State Handle} {lookup : String → Except Failure Settings}
  {client : Connection} {others : List Connection} {w w' : World State}

/-- A visit leaves an idle client idle, and the service in a state in which it answers alike. -/
theorem visit_keeps (hidle : w.pool.idle = client :: others)
    (hanswers : AnswersBy scene.service lookup w.config) (f : Finder) (n : TableName) :
    ∃ answer w', f.visit scene n w = result answer w' ∧ w'.pool = w.pool ∧
      AnswersBy scene.service lookup w'.config := by
  refine ⟨_, _, visit_eq (clientNow_of_idle hidle) f n, ?_, hanswers.resolve f.source n⟩
  rw [pool_after, lookedUp_of_idle hidle]
  rfl

theorem visitAll_keeps {names : List TableName} {found : List (Dataset Handle)}
    (hidle : w.pool.idle = client :: others)
    (hanswers : AnswersBy scene.service lookup w.config)
    (h : f.visitAll scene names w = .ok found w') :
    w'.pool = w.pool ∧ AnswersBy scene.service lookup w'.config := by
  induction names generalizing w found with
  | nil =>
    obtain ⟨-, rfl⟩ := EStateM.Result.ok.inj h
    exact ⟨rfl, hanswers⟩
  | cons n rest ih =>
    obtain ⟨answer, w₁, hvisit, hpool, hanswers₁⟩ := visit_keeps hidle hanswers f n
    rw [Finder.visitAll] at h
    cases answer with
    | error failure =>
      rw [bind_of_error hvisit] at h
      cases h
    | ok first =>
      rw [bind_of_ok hvisit] at h
      cases hrest : f.visitAll scene rest w₁ with
      | error failure w₂ =>
        rw [bind_of_error hrest] at h
        cases h
      | ok later w₂ =>
        rw [bind_of_ok hrest] at h
        obtain ⟨-, rfl⟩ := EStateM.Result.ok.inj h
        obtain ⟨hpool', hanswers'⟩ := ih (hpool ▸ hidle) hanswers₁ hrest
        exact ⟨hpool'.trans hpool, hanswers'⟩

theorem config_of_tables_ok {names : List TableName} (h : f.tables scene w = .ok names w') :
    w'.config = w.config := by
  obtain ⟨client, databases, tablesIn, hlisted⟩ := Finder.listed_of_tables_ok h
  rw [Finder.tables_of_listed hlisted] at h
  obtain ⟨-, rfl⟩ := EStateM.Result.ok.inj h
  rfl

theorem map_eq {α β : Type} (g : α → β) (x : Run State α) (w : World State) :
    (g <$> x) w = match x w with
      | .ok a w' => .ok (g a) w'
      | .error failure w' => .error failure w' := by
  show EStateM.map g x w = _
  rw [EStateM.map]
  cases x w <;> rfl

/-- Datasets that were made before stand in front of those that are made later. -/
theorem visitAll_append {before behind : List TableName} {earlier : List (Dataset Handle)}
    (h : f.visitAll scene before w = .ok earlier w') :
    f.visitAll scene (before ++ behind) w = ((earlier ++ ·) <$> f.visitAll scene behind) w' := by
  induction before generalizing w earlier with
  | nil =>
    obtain ⟨rfl, rfl⟩ := EStateM.Result.ok.inj h
    rw [map_eq, List.nil_append]
    cases f.visitAll scene behind w <;> rfl
  | cons n rest ih =>
    rw [Finder.visitAll] at h
    cases hvisit : f.visit scene n w with
    | error failure w₁ =>
      rw [bind_of_error hvisit] at h
      cases h
    | ok first w₁ =>
      rw [bind_of_ok hvisit] at h
      cases hrest : f.visitAll scene rest w₁ with
      | error failure w₂ =>
        rw [bind_of_error hrest] at h
        cases h
      | ok later w₂ =>
        rw [bind_of_ok hrest] at h
        obtain ⟨rfl, rfl⟩ := EStateM.Result.ok.inj h
        rw [List.cons_append, Finder.visitAll, bind_of_ok hvisit]
        have hlater := ih hrest
        rw [map_eq] at hlater ⊢
        cases hall : f.visitAll scene behind w₂ with
        | error failure w₃ =>
          rw [hall] at hlater
          exact bind_of_error hlater _
        | ok last w₃ =>
          rw [hall] at hlater
          rw [bind_of_ok hlater]
          exact congrArg (EStateM.Result.ok · w₃) (List.append_assoc _ _ _).symm

/-- A run that visits a table goes on with the tables behind it. -/
theorem datasets_of_visit {w₁ w₂ w₃ : World State} {before behind : List TableName}
    {n : TableName} {earlier : List (Dataset Handle)} {found : Option (Dataset Handle)}
    (htables : f.tables scene w = .ok (before ++ n :: behind) w₁)
    (hbefore : f.visitAll scene before w₁ = .ok earlier w₂)
    (hvisit : f.visit scene n w₂ = .ok found w₃) :
    f.datasets scene w
      = ((fun others => earlier ++ (found.toList ++ others)) <$> f.visitAll scene behind) w₃ := by
  rw [Finder.datasets, bind_of_ok htables, visitAll_append hbefore, map_eq, map_eq,
    Finder.visitAll, bind_of_ok hvisit]
  cases hrest : f.visitAll scene behind w₃ with
  | error failure w₄ => rw [bind_of_error hrest]
  | ok others w₄ =>
    rw [bind_of_ok hrest]
    rfl

end Kept

/-! ## What a visit comes to -/

section Flag

variable {scene : Scene State Handle} {client : Connection} {n : TableName} {settings : Settings}

theorem visitScript_of_yes (h : settings.boolean Finder.optOutKey false = .ok true) :
    visitScript scene client n (.ok settings)
      = ⟨.ok none, [.log (.debug ("Skipping blacklisted dataset " ++ n.text))]⟩ := by
  simp only [visitScript, makingScript, h, reported]

theorem requestsOf_deliveryScript (scene : Scene State Handle) (n : TableName)
    (table : Except Failure Table) (settings : Settings) :
    requestsOf (deliveryScript scene n table settings).actions = [] := by
  unfold deliveryScript
  split
  · rfl
  · split
    · rfl
    · split <;> rfl

/-- To report a failure nobody is asked for anything. -/
theorem requestsOf_reported (scene : Scene State Handle) (n : TableName)
    (s : Script (Option (Dataset Handle))) :
    requestsOf (reported scene n s).actions = requestsOf s.actions := by
  unfold reported
  split
  · rfl
  · split
    · rfl
    · split
      · rw [requestsOf_append, requestsOf_append]
        exact (List.append_nil _).trans (List.append_nil _)
      · rw [requestsOf_append]
        exact List.append_nil _
      · rw [requestsOf_append]
        exact List.append_nil _

theorem requestsOf_visitScript_of_no (h : settings.boolean Finder.optOutKey false = .ok false) :
    requestsOf (visitScript scene client n (.ok settings)).actions
      = [.table (Workspace.fullName client.catalog n)] := by
  rw [visitScript, requestsOf_reported]
  simp only [makingScript, h]
  exact congrArg (Request.table _ :: ·) (requestsOf_deliveryScript scene n _ settings)

theorem visitScript_of_failure {failure : Failure}
    (hreceives : ∀ e refusal, scene.sink e ≠ .refused refusal)
    (h : settings.boolean Finder.optOutKey false = .error failure) :
    visitScript scene client n (.ok settings)
      = ⟨.ok none, .log (.error ("Failed to create HiveDataset for table " ++ n.text))
          :: ([Event.failed n failure].filter (keeps scene.sink)).map .event⟩ := by
  simp only [visitScript, makingScript, h]
  exact reported_of_received (boolean_goes_on h) (hreceives _)

/-- Nothing comes of a visit: no dataset, no event, and nobody was asked for anything. -/
def Skipped (answer : Except Failure (Option (Dataset Handle))) (w w' : World State) : Prop :=
  answer = .ok none ∧ eventsOf w'.trace = eventsOf w.trace ∧
    requestsOf w'.trace = requestsOf w.trace

/-- The opt-out in the settings of a table says what becomes of its visit. -/
theorem visit_by_flag {f : Finder} {w : World State} {others : List Connection}
    (hidle : w.pool.idle = client :: others)
    (hsettings : (f.source.resolve scene.service w.config n).answer = .ok settings)
    (hreceives : ∀ e refusal, scene.sink e ≠ .refused refusal) :
    ∃ answer w', f.visit scene n w = result answer w' ∧
      (settings.boolean Finder.optOutKey false = .ok true → Skipped answer w w') ∧
      (settings.boolean Finder.optOutKey false = .ok false →
        requestsOf w'.trace
          = requestsOf w.trace ++ [.table (Workspace.fullName client.catalog n)]) ∧
      ∀ failure, settings.boolean Finder.optOutKey false = .error failure →
        answer = .ok none ∧ requestsOf w'.trace = requestsOf w.trace ∧
          eventsOf w'.trace
            = eventsOf w.trace ++ [Event.failed n failure].filter (keeps scene.sink) := by
  let s := visitScript scene client n (.ok settings)
  let w' := (lookedUp scene f.source client n w).after s.actions
  have hvisit : f.visit scene n w = result s.answer w' := by
    rw [visit_eq (clientNow_of_idle hidle), hsettings]
    rfl
  have hevents : eventsOf w'.trace = eventsOf w.trace ++ eventsOf s.actions := by
    rw [trace_after, eventsOf_append, eventsOf_lookedUp]
  have hrequests : requestsOf w'.trace = requestsOf w.trace ++ requestsOf s.actions := by
    rw [trace_after, requestsOf_append, lookedUp_of_idle hidle, requestsOf_resolved]
  refine ⟨s.answer, w', hvisit, fun hyes => ?_, fun hno => ?_, fun failure hfailure => ?_⟩
  · have hs : s = _ := visitScript_of_yes hyes
    refine ⟨by rw [hs], ?_, ?_⟩
    · rw [hevents, hs]
      exact List.append_nil _
    · rw [hrequests, hs]
      exact List.append_nil _
  · rw [hrequests, requestsOf_visitScript_of_no hno]
  · have hs : s = _ := visitScript_of_failure hreceives hfailure
    refine ⟨by rw [hs], ?_, ?_⟩
    · rw [hrequests, hs]
      exact (congrArg _ (requestsOf_events _)).trans (List.append_nil _)
    · rw [hevents, hs]
      exact congrArg _ (eventsOf_events _)

end Flag

/-! ## Tables of a job with a store -/

/-- A finder of a job that keeps the settings of its tables in a store of a file tree, and a scene
in which it may run. -/
structure StoreJob [CharacterNames] (f : Finder)
    (scene : Scene (FileTree × ConfigClient FileTree) Handle) (job : Settings) (root : List String)
    (t : FileTree) : Prop where
  finder_eq : Finder.ofJob job = .ok f
  service_eq : scene.service = ConfigClient.service .standard
  root_ordinary : ∀ s ∈ root, Ordinary s
  uri_eq : job.get? Job.storeUriKey = some (Path.fileUri root)
  marked : TreeStore.Marked t root root.length
  text : TextTree t
  receives : ∀ e refusal, scene.sink e ≠ .refused refusal

section StoreJob

variable [CharacterNames] {f : Finder} {scene : Scene (FileTree × ConfigClient FileTree) Handle}
  {job : Settings} {root : List String} {t : FileTree} {n : TableName}

/-- The settings of a table, with the opt-out among them as the store decides it. -/
theorem StoreJob.settings (h : StoreJob f scene job root t) (hdb : Ordinary n.db)
    (htable : Ordinary n.table) :
    ∃ settings, settingsBy (lookup t) f.source n = .ok settings ∧
      ∀ value, settings.get? Finder.optOutKey = some value ↔
        Decides t (n.way root) (optOutName job) value := by
  have hsource : f.source = ConfigSource.ofJob job := by
    have hf := h.finder_eq
    rw [Finder.ofJob] at hf
    cases hpolicy : Job.policy job with
    | error failure =>
      rw [hpolicy] at hf
      cases hf
    | ok policy =>
      rw [hpolicy] at hf
      obtain rfl := Except.ok.inj hf
      rfl
  have huri : Path.storeUri root 0 = Path.fileUri root := String.append_empty
  have hne : Path.fileUri root ≠ "" := by
    intro hempty
    have htext := Path.fileUri_toList root
    rw [hempty] at htext
    cases htext
  obtain ⟨merged, hmerged, hget⟩ :=
    lookup_node h.text h.root_ordinary h.marked 0 hdb htable
  rw [huri] at hmerged
  refine ⟨(ConfigSource.ofJob job).narrow merged, ?_, fun value => ?_⟩
  · simp only [settingsBy, hsource, base_ofJob h.uri_eq hne, hmerged]
    rfl
  · rw [get?_narrow, hget]

/-- What becomes of a table whose store may say that it opts out, when a run comes to it.  The
value of the opt-out is the one that the deepest settings file on the way to the table's node gives
to the key in the job's scope.  If it means yes, nothing comes of the visit, and if the sink keeps
reports of failures this is the only way for nothing to come of it.  If it means no or is not there,
the table is asked for, once.  If it means neither, the table is reported as failed and not asked
for.  The run goes on with the other tables. -/
theorem optOut_of_store (h : StoreJob f scene job root t) (hdb : Ordinary n.db)
    (htable : Ordinary n.table) {lookups : List (FileTree × String)}
    {w w₁ w₂ : World (FileTree × ConfigClient FileTree)}
    (hconfig : w.config = (t, ConfigClient.fresh.after lookups))
    {before behind : List TableName} (htables : f.tables scene w = .ok (before ++ n :: behind) w₁)
    {earlier : List (Dataset Handle)} (hbefore : f.visitAll scene before w₁ = .ok earlier w₂) :
    ∃ client answer w₃, w₂.pool.idle.head? = some client ∧ f.visit scene n w₂ = result answer w₃ ∧
      ((∃ v, Decides t (n.way root) (optOutName job) v ∧ IsWord yesWords v) →
        Skipped answer w₂ w₃) ∧
      ((∀ failure, keeps scene.sink (.failed n failure) = true) → Skipped answer w₂ w₃ →
        ∃ v, Decides t (n.way root) (optOutName job) v ∧ IsWord yesWords v) ∧
      ((¬∃ v, Decides t (n.way root) (optOutName job) v) ∨
          (∃ v, Decides t (n.way root) (optOutName job) v ∧ IsWord noWords v) →
        requestsOf w₃.trace
          = requestsOf w₂.trace ++ [.table (Workspace.fullName client.catalog n)]) ∧
      (∀ v, Decides t (n.way root) (optOutName job) v → ¬IsWord yesWords v → ¬IsWord noWords v →
        answer = .ok none ∧ requestsOf w₃.trace = requestsOf w₂.trace ∧
          eventsOf w₃.trace = eventsOf w₂.trace
            ++ [Event.failed n (.notABoolean Finder.optOutKey v)].filter (keeps scene.sink)) ∧
      ∀ found, answer = .ok found →
        f.datasets scene w
          = ((fun others => earlier ++ (found.toList ++ others)) <$> f.visitAll scene behind)
              w₃ := by
  -- Neither the listing nor the visits before change what the pool lends and the service answers.
  obtain ⟨client, others, hidle, -⟩ := Finder.idle_of_tables_ok htables
  have hanswers : AnswersBy scene.service (lookup t) w₁.config := by
    rw [config_of_tables_ok htables, hconfig, h.service_eq]
    exact answersBy_service (Tended.fresh.after lookups) t
  obtain ⟨hpool, hanswers₂⟩ := visitAll_keeps hidle hanswers hbefore
  rw [← hpool] at hidle
  -- So the visit goes by the flag in the settings that the store decides.
  obtain ⟨settings, hsettings, hget⟩ := h.settings hdb htable
  have hresolved : (f.source.resolve scene.service w₂.config n).answer = .ok settings :=
    (hanswers₂.answer_resolve f.source n).trans hsettings
  obtain ⟨answer, w₃, hvisit, hyes, hno, hfailed⟩ := visit_by_flag hidle hresolved h.receives
  have hunlike : ∀ {α : Type} {a : List α} {x : α}, a ≠ a ++ [x] := fun heq =>
    absurd (List.self_eq_append_right.1 heq) (List.cons_ne_nil _ _)
  refine ⟨client, answer, w₃, by rw [hidle]; rfl, hvisit, ?_, fun hkeeps hskipped => ?_, ?_, ?_,
    fun found hfound => ?_⟩
  · rintro ⟨v, hv, hword⟩
    exact hyes (boolean_eq_true_iff.2 ⟨v, (hget v).2 hv, hword⟩)
  · cases hflag : settings.boolean Finder.optOutKey false with
    | error failure =>
      obtain ⟨-, -, hreported⟩ := hfailed failure hflag
      rw [List.filter_cons_of_pos (hkeeps failure), hskipped.2.1] at hreported
      exact absurd hreported hunlike
    | ok flag =>
      cases flag with
      | false => exact absurd (hskipped.2.2.symm.trans (hno hflag)) hunlike
      | true =>
        obtain ⟨v, hv, hword⟩ := boolean_eq_true_iff.1 hflag
        exact ⟨v, (hget v).1 hv, hword⟩
  · rintro (hnone | ⟨v, hv, hword⟩)
    · refine hno (boolean_eq_false_iff.2 (Or.inl ?_))
      exact Option.eq_none_iff_forall_ne_some.2 fun v hv => hnone ⟨v, (hget v).1 hv⟩
    · exact hno (boolean_eq_false_iff.2 (Or.inr ⟨v, (hget v).2 hv, hword⟩))
  · intro v hv hnotYes hnotNo
    refine hfailed _ ?_
    rw [boolean_of_some ((hget v).2 hv), if_neg hnotYes, if_neg hnotNo]
  · refine datasets_of_visit htables hbefore ?_
    rw [hvisit, hfound]
    rfl

end StoreJob

/-! ## A database that opts out, and tables in it -/

/-- The settings of the database say yes, those of one table say no and those of another neither. -/
def flagTree : FileTree :=
  (((FileTree.empty.write ["store", "_CONFIG_STORE"] []).write
    ["store", "hive", "db", "main.conf"] (Utf8.encode "copy.is.blacklisted = Yes".toList)).write
    ["store", "hive", "db", "kept", "main.conf"]
      (Utf8.encode "copy.is.blacklisted: off".toList)).write
    ["store", "hive", "db", "odd", "main.conf"]
      (Utf8.encode "copy.is.blacklisted=maybe".toList)

def flagJob : Settings :=
  .ofList [(Job.whitelistKey, ""), (Job.storeUriKey, Path.fileUri ["store"]),
    (Job.configScopeKey, " copy. ")]

def flagFinder : Finder := ⟨flagJob, sampleFinder.policy, ConfigSource.ofJob flagJob⟩

/-- A catalog with one table. -/
def flagScene (table : String) : Scene (FileTree × ConfigClient FileTree) Unit where
  catalog _ := { sampleCatalog with tables _ := .ok [table] }
  connect _ := ⟨[], .ok ⟨none, none, "main"⟩⟩
  service := ConfigClient.service .standard
  build table settings := .ok ⟨(), table, flagJob, settings⟩
  sink := EventSink.keeping

def flagWorld : World (FileTree × ConfigClient FileTree) :=
  ⟨sampleWorld.pool, (flagTree, ConfigClient.fresh), []⟩

theorem get?_flagJob :
    flagJob.get? Job.whitelistKey = some "" ∧ flagJob.get? Job.databaseKey = none ∧
      flagJob.get? Job.storeUriKey = some (Path.fileUri ["store"]) ∧
      flagJob.get? Job.configScopeKey = some " copy. " ∧
      flagJob.get? "hive.dataset.blacklist" = none := by
  simp only [flagJob, get?_ofList]
  refine ⟨rfl, rfl, rfl, rfl, rfl⟩

theorem ofJob_flagJob : Finder.ofJob flagJob = .ok flagFinder := by
  obtain ⟨hwhitelist, hdatabase, -, -, hblacklist⟩ := get?_flagJob
  have hincluded : (flagJob.within Job.scope).get? "whitelist" = some "" := by
    rw [get?_within]
    exact hwhitelist
  have hexcluded : (flagJob.within Job.scope).get? "blacklist" = none := by
    rw [get?_within]
    exact hblacklist
  have hpolicy : Job.policy flagJob = .ok sampleFinder.policy := by
    simp only [Job.policy, hdatabase, Settings.contains, hwhitelist, Option.isSome_some, if_true,
      Policy.ofSettings, hincluded, hexcluded, Option.getD_some, Option.getD_none]
    rfl
  rw [Finder.ofJob, hpolicy]
  rfl

theorem optOutName_flagJob : optOutName flagJob = "copy.is.blacklisted" := by
  obtain ⟨-, -, -, hscope, -⟩ := get?_flagJob
  simp only [optOutName, hscope]
  decide

theorem textTree_flagTree : TextTree flagTree :=
  (((textTree_empty.write ["store", "_CONFIG_STORE"] []).write _ _).write _ _).write _ _

theorem storeJob_flagJob (table : String) :
    StoreJob flagFinder (flagScene table) flagJob ["store"] flagTree where
  finder_eq := ofJob_flagJob
  service_eq := rfl
  root_ordinary := by decide
  uri_eq := get?_flagJob.2.2.1
  marked := ⟨[], by decide, rfl⟩
  text := textTree_flagTree
  receives _ _ := nofun

theorem tables_flagFinder (table : String) :
    ∃ w₁, flagFinder.tables (flagScene table) flagWorld = .ok ([] ++ ⟨"db", table⟩ :: []) w₁ ∧
      w₁.pool.idle.head? = some ⟨none, none, "main"⟩ :=
  ⟨_, rfl, rfl⟩

theorem nearest_flagTree {table : String} (h : table ∈ ["gone", "kept", "odd"]) :
    Greatest (TreeStore.Marked flagTree ["store", "hive", "db", table]) 4 1 := by
  have hclean : ∀ s ∈ ["store"], '\x00' ∉ s.toList := by decide
  refine ⟨by decide, ⟨[], hclean, rfl⟩, fun i hi hi' => ?_⟩
  rintro ⟨octets, -, hentry⟩
  simp only [List.mem_cons, List.not_mem_nil, or_false] at h
  obtain rfl | rfl | rfl : i = 2 ∨ i = 3 ∨ i = 4 := by omega
  · cases hentry
  · cases hentry
  · rcases h with rfl | rfl | rfl
    · cases hentry
    · cases hentry
    · cases hentry

/-- A table without settings of its own has those of the database, and a table with settings of its
own has these. -/
theorem decides_flagTree :
    Decides flagTree ["store", "hive", "db", "gone"] "copy.is.blacklisted" "Yes" ∧
      Decides flagTree ["store", "hive", "db", "kept"] "copy.is.blacklisted" "off" ∧
      Decides flagTree ["store", "hive", "db", "odd"] "copy.is.blacklisted" "maybe" := by
  have hdatabase : TreeStore.Defines flagTree ["store", "hive", "db", "gone"] 3
      "copy.is.blacklisted" "Yes" :=
    ⟨"copy.is.blacklisted = Yes".toList, ⟨by decide, rfl⟩, [], [], rfl, by simp⟩
  have hkept : TreeStore.Defines flagTree ["store", "hive", "db", "kept"] 4
      "copy.is.blacklisted" "off" :=
    ⟨"copy.is.blacklisted: off".toList, ⟨by decide, rfl⟩, [], [], rfl, by simp⟩
  have hodd : TreeStore.Defines flagTree ["store", "hive", "db", "odd"] 4
      "copy.is.blacklisted" "maybe" :=
    ⟨"copy.is.blacklisted=maybe".toList, ⟨by decide, rfl⟩, [], [], rfl, by simp⟩
  have hdeepest : ∀ i, 4 < i → ¬i ≤ 4 := fun i hi => Nat.not_le.2 hi
  refine ⟨⟨1, nearest_flagTree (by simp), 3, ⟨by decide, ⟨by decide, _, hdatabase⟩, ?_⟩, hdatabase⟩,
    ⟨1, nearest_flagTree (by simp), 4, ⟨by decide, ⟨by decide, _, hkept⟩, ?_⟩, hkept⟩,
    ⟨1, nearest_flagTree (by simp), 4, ⟨by decide, ⟨by decide, _, hodd⟩, ?_⟩, hodd⟩⟩
  · rintro i hi hi' ⟨-, v, text, ⟨-, hentry⟩, -⟩
    change i ≤ 4 at hi'
    obtain rfl : i = 4 := by omega
    cases hentry
  · exact fun i hi hi' => absurd hi' (hdeepest i hi)
  · exact fun i hi hi' => absurd hi' (hdeepest i hi)

theorem optOut_of_store_of_three :
    (∃ w₁ w₂, flagFinder.tables (flagScene "gone") flagWorld = .ok [⟨"db", "gone"⟩] w₁ ∧
      flagFinder.visit (flagScene "gone") ⟨"db", "gone"⟩ w₁ = .ok none w₂ ∧
      eventsOf w₂.trace = eventsOf w₁.trace ∧ requestsOf w₂.trace = requestsOf w₁.trace) ∧
    (∃ w₁ answer w₂, flagFinder.tables (flagScene "kept") flagWorld = .ok [⟨"db", "kept"⟩] w₁ ∧
      flagFinder.visit (flagScene "kept") ⟨"db", "kept"⟩ w₁ = result answer w₂ ∧
      requestsOf w₂.trace = requestsOf w₁.trace ++ [.table "main.db.kept"]) ∧
    ∃ w₁ w₂, flagFinder.tables (flagScene "odd") flagWorld = .ok [⟨"db", "odd"⟩] w₁ ∧
      flagFinder.visit (flagScene "odd") ⟨"db", "odd"⟩ w₁ = .ok none w₂ ∧
      requestsOf w₂.trace = requestsOf w₁.trace ∧
      eventsOf w₂.trace = eventsOf w₁.trace
        ++ [.failed ⟨"db", "odd"⟩ (.notABoolean "is.blacklisted" "maybe")] := by
  have hconfig : flagWorld.config = (flagTree, ConfigClient.fresh.after []) := rfl
  obtain ⟨hgone, hkept, hodd⟩ := decides_flagTree
  rw [← optOutName_flagJob] at hgone hkept hodd
  refine ⟨?_, ?_, ?_⟩
  · obtain ⟨w₁, htables, -⟩ := tables_flagFinder "gone"
    obtain ⟨client, answer, w₂, -, hvisit, hyes, -⟩ :=
      optOut_of_store (storeJob_flagJob "gone") (n := ⟨"db", "gone"⟩) (by decide) (by decide)
        hconfig htables rfl
    obtain ⟨rfl, hevents, hrequests⟩ := hyes ⟨"Yes", hgone, by decide⟩
    exact ⟨w₁, w₂, htables, hvisit, hevents, hrequests⟩
  · obtain ⟨w₁, htables, hidle⟩ := tables_flagFinder "kept"
    obtain ⟨client, answer, w₂, hclient, hvisit, -, -, hno, -⟩ :=
      optOut_of_store (storeJob_flagJob "kept") (n := ⟨"db", "kept"⟩) (by decide) (by decide)
        hconfig htables rfl
    obtain rfl := Option.some.inj (hidle.symm.trans hclient)
    exact ⟨w₁, answer, w₂, htables, hvisit, hno (Or.inr ⟨"off", hkept, by decide⟩)⟩
  · obtain ⟨w₁, htables, -⟩ := tables_flagFinder "odd"
    obtain ⟨client, answer, w₂, -, hvisit, -, -, -, hfailed, -⟩ :=
      optOut_of_store (storeJob_flagJob "odd") (n := ⟨"db", "odd"⟩) (by decide) (by decide)
        hconfig htables rfl
    obtain ⟨rfl, hrequests, hevents⟩ := hfailed "maybe" hodd (by decide) (by decide)
    exact ⟨w₁, w₂, htables, hvisit, hrequests, hevents⟩

end Discovery
end CatalogScout
