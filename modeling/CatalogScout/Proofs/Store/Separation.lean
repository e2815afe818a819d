import CatalogScout.Proofs.Settings.Scopes
import CatalogScout.Proofs.Store.Flags

/-!
Jobs that share a store, each with a scope of its own.

Two trees are twins for a scope if they look alike and their settings files agree under the keys of
the scope.  A lookup takes the same way through twins, by the same root and the same directories or
into the same failure, and what the scope leaves of the settings it comes back with is the same.  So
a job with the scope reads nothing that is written for the others.
-/

namespace CatalogScout

open Text

/-! ## Trees that look alike -/

/-- The trees have the same directories, and markers and settings files in the same places. -/
structure FileTree.SameShape (t t' : FileTree) : Prop where
  directory_iff : ∀ place, t.entry place = some .directory ↔ t'.entry place = some .directory
  marker_iff : ∀ directory,
    (∃ octets, t.entry (directory ++ ["_CONFIG_STORE"]) = some (.file octets)) ↔
      ∃ octets, t'.entry (directory ++ ["_CONFIG_STORE"]) = some (.file octets)
  settings_iff : ∀ directory,
    (∃ octets, t.entry (directory ++ ["main.conf"]) = some (.file octets)) ↔
      ∃ octets, t'.entry (directory ++ ["main.conf"]) = some (.file octets)

namespace FileTree.SameShape

variable {t t' : FileTree}

/-- What a path leads to depends on the directories alone. -/
theorem locate?_eq (h : SameShape t t') (p : Path) : t.locate? p = t'.locate? p := by
  have hdirectory : ∀ place, t.isDirectoryAt place = t'.isDirectoryAt place := by
    intro place
    exact decide_eq_decide.2 (h.directory_iff place)
  have hfollow : t.follow = t'.follow := by
    funext here segment
    rw [FileTree.follow, FileTree.follow, hdirectory]
  rw [FileTree.locate?, FileTree.locate?, hfollow]

end FileTree.SameShape

namespace TreeStore

section SameShape

variable {t t' : FileTree}

/-- Files of a name that stand in the same directories are found by the same paths. -/
theorem exists_file_iff (h : t.SameShape t') {name : String} (hdots : name ≠ "..")
    (hnul : '\x00' ∉ name.toList)
    (hname : ∀ directory, (∃ octets, t.entry (directory ++ [name]) = some (.file octets)) ↔
      ∃ octets, t'.entry (directory ++ [name]) = some (.file octets)) (p : Path) :
    (∃ octets, t.file? (p.child name) = some octets) ↔
      ∃ octets, t'.file? (p.child name) = some octets := by
  have hplace : ∀ t : FileTree, (∃ octets, t.file? (p.child name) = some octets) ↔
      ∃ here, t.locate? p = some here ∧
        ∃ octets, t.entry (here ++ [name]) = some (.file octets) := by
    intro t
    simp only [file?_child hdots hnul, ← exists_and_left]
    exact exists_comm
  rw [hplace, hplace]
  simp only [h.locate?_eq, hname]

theorem hasMarker_eq (h : t.SameShape t') (p : Path) : hasMarker t p = hasMarker t' p := by
  rw [Bool.eq_iff_iff, hasMarker, hasMarker, FileTree.isFile, FileTree.isFile,
    Option.isSome_iff_exists, Option.isSome_iff_exists]
  exact exists_file_iff h (by decide) (by decide) h.marker_iff p

/-- The path lies in the same store. -/
theorem rootOf_eq (h : t.SameShape t') (p : Path) : rootOf t p = rootOf t' p := by
  have hmarker : hasMarker t = hasMarker t' := funext (hasMarker_eq h)
  rw [rootOf, rootOf, hmarker]

end SameShape

/-- The settings of a directory without a settings file. -/
theorem ownSettings_of_none {t : FileTree} {d : Path}
    (h : ¬∃ octets, t.file? (d.child settingsName) = some octets) :
    ownSettings t d = .ok ∅ := by
  have hnone := Option.eq_none_iff_forall_ne_some.2 fun octets hoctets => h ⟨octets, hoctets⟩
  rw [ownSettings, hnone]

theorem ownSettings_of_text {t : FileTree} {d : Path} {conf : List Char}
    (h : t.file? (d.child settingsName) = some (Utf8.encode conf)) :
    ownSettings t d = .ok (Settings.ofText conf) := by
  rw [ownSettings, h]
  exact Settings.ofOctets_encode conf

/-- The settings of a node within a scope are those that its directories have within the scope,
where a deeper directory overrides the ones above. -/
theorem settings_within (t : FileTree) (root node : Path) (scope : String) :
    (settings t root node).map (·.within scope)
      = (chain root node).foldlM
          (fun s d => s.override <$> (ownSettings t d).map (·.within scope)) ∅ := by
  have hfold := Settings.within_foldlM (ownSettings t) scope (chain root node) ∅
  rw [Settings.within_empty] at hfold
  exact hfold

end TreeStore

/-! ## Twins -/

/-- Trees that look alike, with settings files of text that agree within the scope and may say
whatever else. -/
structure FileTree.Twins (scope : String) (t t' : FileTree) : Prop extends t.SameShape t' where
  text : ConfigClient.TextTree t
  text' : ConfigClient.TextTree t'
  agree : ∀ directory conf conf',
    t.entry (directory ++ ["main.conf"]) = some (.file (Utf8.encode conf)) →
    t'.entry (directory ++ ["main.conf"]) = some (.file (Utf8.encode conf')) →
    Settings.AgreeIn scope (Settings.ofText conf) (Settings.ofText conf')

namespace FileTree.Twins

open TreeStore

variable {scope : String} {t t' : FileTree}

/-- A directory of either twin has the same settings within the scope. -/
theorem ownSettings_within (h : t.Twins scope t') (d : Path) :
    (ownSettings t d).map (·.within scope) = (ownSettings t' d).map (·.within scope) := by
  have hfiles := exists_file_iff h.toSameShape (by decide) (by decide) h.settings_iff d
  by_cases hsome : ∃ octets, t.file? (d.child settingsName) = some octets
  · obtain ⟨octets', hfile'⟩ := hfiles.1 hsome
    obtain ⟨octets, hfile⟩ := hsome
    obtain ⟨here, hhere, hentry⟩ := (file?_child (by decide) (by decide) d octets).1 hfile
    obtain ⟨here', hhere', hentry'⟩ := (file?_child (by decide) (by decide) d octets').1 hfile'
    -- Both files stand in the directory that the path leads to.
    obtain rfl : here = here' := by
      rw [← h.locate?_eq, hhere] at hhere'
      exact Option.some.inj hhere'
    obtain ⟨conf, rfl⟩ := h.text here octets hentry
    obtain ⟨conf', rfl⟩ := h.text' here octets' hentry'
    rw [ownSettings_of_text hfile, ownSettings_of_text hfile']
    exact congrArg Except.ok (Settings.within_eq_iff.2 (h.agree here conf conf' hentry hentry'))
  · rw [ownSettings_of_none hsome, ownSettings_of_none fun hsome' => hsome (hfiles.2 hsome')]

theorem settings_within (h : t.Twins scope t') (root node : Path) :
    (settings t root node).map (·.within scope)
      = (settings t' root node).map (·.within scope) := by
  rw [TreeStore.settings_within, TreeStore.settings_within]
  simp only [h.ownSettings_within]

/-- An address stands for the same settings within the scope, or for the same failure. -/
theorem lookup_within (h : t.Twins scope t') (uri : String) :
    (ConfigClient.lookup t uri).map (·.within scope)
      = (ConfigClient.lookup t' uri).map (·.within scope) := by
  unfold ConfigClient.lookup
  cases ConfigClient.target uri with
  | error failure => rfl
  | ok address =>
    obtain ⟨scheme, path⟩ := address
    by_cases hscheme : scheme = "file"
    · simp only [hscheme, if_true, TreeStore.lookup, rootOf_eq h.toSameShape path]
      cases rootOf t' path with
      | error failure => rfl
      | ok root => exact h.settings_within root _
    · simp only [if_neg hscheme]

/-! ### Writing in twins -/

theorem refl (scope : String) (h : ConfigClient.TextTree t) : t.Twins scope t := by
  refine ⟨⟨fun _ => Iff.rfl, fun _ => Iff.rfl, fun _ => Iff.rfl⟩, h, h, ?_⟩
  intro directory conf conf' hentry hentry'
  rw [hentry] at hentry'
  obtain rfl := Utf8.encode_inj (Entry.file.inj (Option.some.inj hentry'))
  exact Settings.AgreeIn.refl scope _

/-- What stands at a place after both trees were written to at one target. -/
theorem entry_write_cases (t t' : FileTree) (target : List String) (octets octets' : List UInt8)
    (q : List String) :
    ((t.write target octets).entry q = some .directory ∧
        (t'.write target octets').entry q = some .directory) ∨
      ((t.write target octets).entry q = some (.file octets) ∧
        (t'.write target octets').entry q = some (.file octets')) ∨
      ((t.write target octets).entry q = none ∧ (t'.write target octets').entry q = none) ∨
      ((t.write target octets).entry q = t.entry q ∧
        (t'.write target octets').entry q = t'.entry q) := by
  unfold FileTree.write FileTree.put
  cases target.getLast? with
  | none => exact Or.inr (Or.inr (Or.inr ⟨rfl, rfl⟩))
  | some last =>
    simp only [FileTree.place]
    by_cases habove : q <+: target.dropLast
    · simp [habove]
    · by_cases hself : q = target.dropLast ++ [last]
      · subst hself
        simp [habove]
      · by_cases hbelow : target.dropLast ++ [last] <+: q
        · simp [habove, hself, hbelow]
        · simp [habove, hself, hbelow]

/-- Trees that look alike still do after a file is written to the same target in both. -/
theorem sameShape_write (h : t.SameShape t') (target : List String) (octets octets' : List UInt8) :
    (t.write target octets).SameShape (t'.write target octets') := by
  have hfile : ∀ q, ((∃ o, t.entry q = some (.file o)) ↔ ∃ o, t'.entry q = some (.file o)) →
      ((∃ o, (t.write target octets).entry q = some (.file o)) ↔
        ∃ o, (t'.write target octets').entry q = some (.file o)) := by
    intro q hq
    rcases entry_write_cases t t' target octets octets' q with
      ⟨he, he'⟩ | ⟨he, he'⟩ | ⟨he, he'⟩ | ⟨he, he'⟩
    · simp [he, he']
    · simp [he, he']
    · simp [he, he']
    · simp only [he, he', hq]
  refine ⟨?_, fun d => hfile _ (h.marker_iff d), fun d => hfile _ (h.settings_iff d)⟩
  intro q
  rcases entry_write_cases t t' target octets octets' q with
    ⟨he, he'⟩ | ⟨he, he'⟩ | ⟨he, he'⟩ | ⟨he, he'⟩
  · simp [he, he']
  · simp [he, he']
  · simp [he, he']
  · simp only [he, he', h.directory_iff q]

/-- Twins stay twins if the same file is written in both, with texts that agree within the
scope. -/
theorem write (h : t.Twins scope t') (target : List String) {conf conf' : List Char}
    (hagree : Settings.AgreeIn scope (Settings.ofText conf) (Settings.ofText conf')) :
    (t.write target (Utf8.encode conf)).Twins scope (t'.write target (Utf8.encode conf')) := by
  refine ⟨sameShape_write h.toSameShape target _ _, h.text.write target conf,
    h.text'.write target conf', ?_⟩
  intro directory text text' hentry hentry'
  rcases entry_write_cases t t' target (Utf8.encode conf) (Utf8.encode conf')
    (directory ++ ["main.conf"]) with ⟨he, -⟩ | ⟨he, he'⟩ | ⟨he, -⟩ | ⟨he, he'⟩
  · rw [he] at hentry
    cases hentry
  · rw [he] at hentry
    rw [he'] at hentry'
    obtain rfl := Utf8.encode_inj (Entry.file.inj (Option.some.inj hentry))
    obtain rfl := Utf8.encode_inj (Entry.file.inj (Option.some.inj hentry'))
    exact hagree
  · rw [he] at hentry
    cases hentry
  · rw [he] at hentry
    rw [he'] at hentry'
    exact h.agree directory text text' hentry hentry'

end FileTree.Twins

/-! ## Jobs with a scope -/

namespace ConfigSource

/-- The settings of a job name a scope that is not only blanks and dots. -/
def ScopedTo (scope : String) (job : Settings) : Prop :=
  job.get? Job.configScopeKey = some scope ∧ dropTrailing '.' (trim scope.toList) ≠ []

variable {scope : String} {job : Settings}

theorem withScope_of_scopedTo (h : ScopedTo scope job) (source : ConfigSource) :
    source.withScope (job.get? Job.configScopeKey)
      = { source with scopes := source.scopes ++ [scope] } := by
  have hblank : isBlankString scope = false := by
    rw [Bool.eq_false_iff]
    intro hblank
    apply h.2
    rw [(trim_eq_nil_iff scope.toList).2 hblank]
    rfl
  rw [h.1, withScope, hblank]
  rfl

theorem ofJob_of_store (h : ScopedTo scope job) {uri : String}
    (huri : Job.nonEmpty? job Job.storeUriKey = some uri) :
    ofJob job = ⟨.store (storeRoot uri), [scope]⟩ := by
  simp only [ofJob, huri, withScope_of_scopedTo h]
  rfl

theorem ofJob_of_none (h : ScopedTo scope job)
    (hnone : Job.nonEmpty? job Job.storeUriKey = none) :
    ofJob job = ⟨.job job, [scope]⟩ := by
  simp only [ofJob, hnone, withScope_of_scopedTo h]
  rfl

theorem answer_scoped {State : Type} (service : ConfigService State) (root scope : String)
    (state : State) (n : TableName) :
    ((⟨.store root, [scope]⟩ : ConfigSource).resolve service state n).answer
      = (service state (nodeUri root n)).answer.map (·.within scope) :=
  rfl

/-- In a store a table of the job has what its address stands for, narrowed to the scope. -/
theorem answer_of_store (h : ScopedTo scope job) {uri : String}
    (huri : Job.nonEmpty? job Job.storeUriKey = some uri) (t : FileTree)
    (lookups : List (FileTree × String)) (n : TableName) :
    ((ofJob job).resolve (ConfigClient.service .standard)
        (t, ConfigClient.fresh.after lookups) n).answer
      = (ConfigClient.lookup t (nodeUri (storeRoot uri) n)).map (·.within scope) := by
  have hanswer : ∀ address : String,
      (ConfigClient.service .standard (t, ConfigClient.fresh.after lookups) address).answer
        = ConfigClient.lookup t address :=
    (ConfigClient.Tended.fresh.after lookups).get_answer t
  rw [ofJob_of_store h huri, answer_scoped, hanswer]

/-- A job does not read what stands outside of its scope, neither in a store that it shares with
others nor in its own settings: in twins of a store a table has the same settings or the same
failure, whatever was looked up before; without a store it has the same settings if the jobs agree
within the scope; and always narrowing to the scope may as well be done in every directory, before
the directories override each other. -/
theorem scopes_apart (scope : String) (n : TableName) :
    (∀ job job' uri t t' lookups lookups', ScopedTo scope job → ScopedTo scope job' →
      Job.nonEmpty? job Job.storeUriKey = some uri →
      Job.nonEmpty? job' Job.storeUriKey = some uri → t.Twins scope t' →
      ((ofJob job).resolve (ConfigClient.service .standard)
          (t, ConfigClient.fresh.after lookups) n).answer
        = ((ofJob job').resolve (ConfigClient.service .standard)
          (t', ConfigClient.fresh.after lookups') n).answer) ∧
    (∀ job job', ScopedTo scope job → ScopedTo scope job' →
      Job.nonEmpty? job Job.storeUriKey = none → Job.nonEmpty? job' Job.storeUriKey = none →
      job.AgreeIn scope job' →
      ∃ settings, ∀ (State : Type) (service : ConfigService State) (state : State),
        ((ofJob job).resolve service state n).answer = .ok settings ∧
          ((ofJob job').resolve service state n).answer = .ok settings) ∧
    ∀ t root node, (TreeStore.settings t root node).map (·.within scope)
      = (TreeStore.chain root node).foldlM
          (fun s d => s.override <$> (TreeStore.ownSettings t d).map (·.within scope)) ∅ := by
  refine ⟨?_, ?_, fun t root node => TreeStore.settings_within t root node scope⟩
  · intro job job' uri t t' lookups lookups' hjob hjob' huri huri' htwins
    rw [answer_of_store hjob huri, answer_of_store hjob' huri']
    exact htwins.lookup_within _
  · intro job job' hjob hjob' hnone hnone' hagree
    refine ⟨job.within scope, ?_⟩
    intro State service state
    rw [ofJob_of_none hjob hnone, ofJob_of_none hjob' hnone']
    exact ⟨rfl, congrArg Except.ok (Settings.within_eq_iff.2 hagree).symm⟩

/-- A store with one settings file. -/
def tenantTree (conf : String) : FileTree :=
  (FileTree.empty.write ["store", "_CONFIG_STORE"] (Utf8.encode [])).write ["store", "main.conf"]
    (Utf8.encode conf.toList)

def tenantJob : Settings :=
  .ofList [(Job.storeUriKey, "file:///store"), (Job.configScopeKey, "copy")]

theorem entriesOf_tenants :
    Settings.entriesOf "copy.owner=ann\nother.owner=bob".toList
        = [("copy.owner", "ann"), ("other.owner", "bob")] ∧
      Settings.entriesOf "copy.owner=ann\nother.owner=eve".toList
        = [("copy.owner", "ann"), ("other.owner", "eve")] :=
  ⟨rfl, rfl⟩

theorem twins_tenantTree :
    (tenantTree "copy.owner=ann\nother.owner=bob").Twins "copy"
      (tenantTree "copy.owner=ann\nother.owner=eve") := by
  have hagree : Settings.AgreeIn "copy"
      (.ofList (Settings.entriesOf "copy.owner=ann\nother.owner=bob".toList))
      (.ofList (Settings.entriesOf "copy.owner=ann\nother.owner=eve".toList)) := by
    rw [entriesOf_tenants.1, entriesOf_tenants.2]
    exact Settings.agreeIn_ofList (by decide)
  have hroot := (FileTree.Twins.refl "copy" ConfigClient.textTree_empty).write
    ["store", "_CONFIG_STORE"] (Settings.AgreeIn.refl "copy" (Settings.ofText []))
  exact hroot.write ["store", "main.conf"] hagree

theorem scopes_apart_of_tenants :
    ScopedTo "copy" tenantJob ∧
      ((ofJob tenantJob).resolve (ConfigClient.service .standard)
          (tenantTree "copy.owner=ann\nother.owner=bob", ConfigClient.fresh.after [])
          ⟨"db", "t"⟩).answer
        = ((ofJob tenantJob).resolve (ConfigClient.service .standard)
          (tenantTree "copy.owner=ann\nother.owner=eve", ConfigClient.fresh.after [])
          ⟨"db", "t"⟩).answer ∧
      (((ofJob tenantJob).resolve (ConfigClient.service .standard)
          (tenantTree "copy.owner=ann\nother.owner=eve", ConfigClient.fresh.after [])
          ⟨"db", "t"⟩).answer.map (·.entries)).toOption = some [("owner", "ann")] := by
  have hjob : ScopedTo "copy" tenantJob := ⟨rfl, by decide⟩
  have huri : Job.nonEmpty? tenantJob Job.storeUriKey = some "file:///store" := rfl
  have hsame := (scopes_apart "copy" ⟨"db", "t"⟩).1 tenantJob tenantJob "file:///store" _ _ [] []
    hjob hjob huri huri twins_tenantTree
  refine ⟨hjob, hsame, ?_⟩
  decide +kernel

end ConfigSource

end CatalogScout
