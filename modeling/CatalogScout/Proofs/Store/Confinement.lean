import CatalogScout.Proofs.Store.Separation
import Mathlib.Data.List.Induction
import Mathlib.Tactic.ByContra

/-!
Which files the answer to a lookup depends on.

Root and node of a path are told by its segments as they are written, and so is whether the node
lies below the root.  The tree is asked for the directories on the way, and it follows two dots out
of a directory.  An answer depends on the settings files of the directories that the tree finds
(`Reads`), and on no other file.  They stand in the store if the node never goes up further than it
went down (`staysBelow`); a node that does gets settings from outside.
-/

namespace CatalogScout

namespace FileTree

/-! ## Files that say something else -/

/-- The trees have the same directories and the same files.  What the files say may differ at the
places. -/
structure Rewritten (places : List String → Prop) (t t' : FileTree) : Prop where
  directory_iff : ∀ q, t.entry q = some .directory ↔ t'.entry q = some .directory
  file_iff : ∀ q,
    (∃ octets, t.entry q = some (.file octets)) ↔ ∃ octets, t'.entry q = some (.file octets)
  entry_eq : ∀ q, ¬places q → t'.entry q = t.entry q

variable {places : List String → Prop} {t t' : FileTree}

theorem Rewritten.sameShape (h : t.Rewritten places t') : t.SameShape t' :=
  ⟨h.directory_iff, fun _ => h.file_iff _, fun _ => h.file_iff _⟩

theorem Rewritten.refl (places : List String → Prop) (t : FileTree) : t.Rewritten places t :=
  ⟨fun _ => Iff.rfl, fun _ => Iff.rfl, fun _ _ => rfl⟩

theorem Rewritten.mono {more : List String → Prop} (h : t.Rewritten places t')
    (hmore : ∀ q, places q → more q) : t.Rewritten more t' :=
  ⟨h.directory_iff, h.file_iff, fun q hq => h.entry_eq q fun hplace => hq (hmore q hplace)⟩

/-- Only directories have anything below them. -/
theorem directory_of_below {q below : List String} (hbelow : below ≠ [])
    (h : t.entry (q ++ below) ≠ none) : t.entry q = some .directory := by
  induction below using List.reverseRecOn with
  | nil => exact absurd rfl hbelow
  | append_singleton below segment ih =>
    rw [← List.append_assoc] at h
    have hparent := t.parent_directory _ _ h
    by_cases hlast : below = []
    · rw [hlast, List.append_nil] at hparent
      exact hparent
    · exact ih hlast (by rw [hparent]; exact Option.some_ne_none _)

/-- Writing to a file that is there changes what this file says. -/
theorem entry_write_of_file {directory : List String} {name : String} {octets : List UInt8}
    (h : t.entry (directory ++ [name]) = some (.file octets)) (octets' : List UInt8)
    (q : List String) :
    (t.write (directory ++ [name]) octets').entry q
      = if q = directory ++ [name] then some (.file octets') else t.entry q := by
  have hwrite : t.write (directory ++ [name]) octets' = t.place directory name (.file octets') := by
    rw [write, put, List.getLast?_concat, List.dropLast_concat]
  rw [hwrite]
  by_cases hself : q = directory ++ [name]
  · rw [hself, entry_place_self, if_pos rfl]
  rw [if_neg hself]
  by_cases habove : q <+: directory
  · -- Above the file there are directories already.
    obtain ⟨rest, rfl⟩ := habove
    have hnonempty : rest ++ [name] ≠ [] := by simp
    have hdirectory : t.entry q = some .directory := by
      refine directory_of_below hnonempty ?_
      rw [← List.append_assoc, h]
      exact Option.some_ne_none _
    rw [hdirectory]
    simp [place]
  by_cases hbelow : directory ++ [name] <+: q
  · -- Below the file there is nothing anyway.
    obtain ⟨rest, rfl⟩ := hbelow
    have hnone : t.entry (directory ++ [name] ++ rest) = none := by
      by_contra hsome
      have hrest : rest ≠ [] := by
        rintro rfl
        exact hself (List.append_nil _)
      rw [directory_of_below hrest hsome] at h
      cases h
    rw [hnone]
    simp only [place, habove, hself, if_false, List.prefix_append, if_true]
  · exact entry_place_of_not_prefix t _ hbelow habove

theorem rewritten_write {directory : List String} {name : String} {octets : List UInt8}
    (h : t.entry (directory ++ [name]) = some (.file octets)) (octets' : List UInt8) :
    t.Rewritten (· = directory ++ [name]) (t.write (directory ++ [name]) octets') := by
  refine ⟨fun q => ?_, fun q => ?_, fun q hq => ?_⟩
  · rw [entry_write_of_file h]
    by_cases hself : q = directory ++ [name]
    · rw [if_pos hself, hself, h]
      simp
    · rw [if_neg hself]
  · rw [entry_write_of_file h]
    by_cases hself : q = directory ++ [name]
    · rw [if_pos hself, hself, h]
      simp
    · rw [if_neg hself]
  · rw [entry_write_of_file h, if_neg hq]

/-! ## Going up no further than down -/

/-- Following the segments from so many levels down never leads above the start. -/
def staysBelow : Nat → List String → Bool
  | _, [] => true
  | depth, segment :: rest =>
    if segment = ".." then depth != 0 && staysBelow (depth - 1) rest
    else staysBelow (depth + 1) rest

theorem staysBelow_of_append {depth : Nat} {segments rest : List String}
    (h : staysBelow depth (segments ++ rest) = true) : staysBelow depth segments = true := by
  induction segments generalizing depth with
  | nil => rfl
  | cons segment segments ih =>
    rw [List.cons_append, staysBelow] at h
    rw [staysBelow]
    split at h
    · next hdots =>
      rw [Bool.and_eq_true] at h
      rw [if_pos hdots, h.1, ih h.2]
      rfl
    · next hdots =>
      rw [if_neg hdots]
      exact ih h

/-- The place where one is stays below the start, as many levels as are counted. -/
theorem below_of_staysBelow {start below segments here : List String}
    (hstays : staysBelow below.length segments = true)
    (h : segments.foldlM t.follow (start ++ below) = some here) : start <+: here := by
  induction segments generalizing below with
  | nil =>
    obtain rfl : start ++ below = here := Option.some.inj h
    exact List.prefix_append _ _
  | cons segment segments ih =>
    rw [List.foldlM_cons] at h
    obtain ⟨next, hnext, h⟩ := Option.bind_eq_some_iff.1 h
    rw [staysBelow] at hstays
    rw [follow] at hnext
    split at hnext
    · cases hnext
    split at hnext
    · next hdots =>
      rw [if_pos hdots, Bool.and_eq_true, bne_iff_ne, Nat.ne_zero_iff_zero_lt,
        List.length_pos_iff] at hstays
      split at hnext
      · cases hnext
        rw [List.dropLast_append_of_ne_nil hstays.1] at h
        exact ih (by rw [List.length_dropLast]; exact hstays.2) h
      · cases hnext
    · next hdots =>
      cases hnext
      rw [if_neg hdots] at hstays
      rw [List.append_assoc] at h
      exact ih (by rw [List.length_append]; exact hstays) h

end FileTree

namespace TreeStore

variable {places : List String → Prop} {t t' : FileTree} {root node path : Path}

/-! ## The files that are read -/

/-- The place is that of a settings file in a directory that one of the paths leads to. -/
def Reads (t : FileTree) (directories : List Path) (place : List String) : Prop :=
  ∃ d ∈ directories, ∃ here octets, t.locate? d = some here ∧ place = here ++ [settingsName] ∧
    t.entry place = some (.file octets)

theorem file?_eq_of_unread (h : t.Rewritten places t') {d : Path}
    (hunread : ∀ place, Reads t [d] place → ¬places place) :
    t'.file? (d.child settingsName) = t.file? (d.child settingsName) := by
  refine Option.ext fun octets => ?_
  rw [file?_child (by decide) (by decide), file?_child (by decide) (by decide),
    ← h.sameShape.locate?_eq]
  refine exists_congr fun here => and_congr_right fun hhere => ?_
  -- A place that may be rewritten has no file in either tree.
  by_cases hplace : places (here ++ [settingsName])
  · have hnone : ¬∃ o, t.entry (here ++ [settingsName]) = some (.file o) := by
      rintro ⟨o, ho⟩
      exact hunread _ ⟨d, List.mem_singleton_self d, here, o, hhere, rfl, ho⟩ hplace
    constructor
    · intro hentry
      exact absurd ((h.file_iff _).2 ⟨octets, hentry⟩) hnone
    · intro hentry
      exact absurd ⟨octets, hentry⟩ hnone
  · rw [h.entry_eq _ hplace]

/-- What is not read makes no difference. -/
theorem settings_eq_of_unread (h : t.Rewritten places t')
    (hunread : ∀ place, Reads t (chain root node) place → ¬places place) :
    settings t' root node = settings t root node := by
  refine merged_congr fun d hd => ownSettings_congr (file?_eq_of_unread h ?_)
  rintro place ⟨e, he, hread⟩
  obtain rfl := List.mem_singleton.1 he
  exact hunread place ⟨e, hd, hread⟩

/-- What is read makes a difference: the answer fails if one of the files is no text. -/
theorem settings_of_broken {place : List String} (hread : Reads t (chain root node) place)
    (hbroken : t'.entry place = some (.file [0xff]))
    (hlocate : ∀ p, t'.locate? p = t.locate? p) :
    ∃ failure, settings t' root node = .error failure := by
  obtain ⟨d, hd, here, octets, hhere, rfl, -⟩ := hread
  have hfile : t'.file? (d.child settingsName) = some [0xff] :=
    (file?_child (by decide) (by decide) d _).2 ⟨here, (hlocate d).trans hhere, hbroken⟩
  have hown : ∃ failure, ownSettings t' d = .error failure := by
    rw [ownSettings, hfile]
    exact ⟨_, rfl⟩
  obtain ⟨-, -, failure, -, hmerged⟩ := foldlM_error (t := t') (chain root node) ∅ ⟨d, hd, hown⟩
  exact ⟨failure, hmerged⟩

/-- The root leads to a directory with a marker. -/
theorem exists_marker (h : rootOf t path = .ok root) :
    ∃ store, t.locate? root = some store ∧
      ∃ octets, t.entry (store ++ [markerName]) = some (.file octets) := by
  obtain ⟨octets, hfile⟩ := Option.isSome_iff_exists.1 (marked_of_rootOf h).2
  obtain ⟨store, hstore, hentry⟩ := (file?_child (by decide) (by decide) root octets).1 hfile
  exact ⟨store, hstore, octets, hentry⟩

/-- A node that goes up no further than down reads nothing outside of the store. -/
theorem reads_below {store place : List String} (hstore : t.locate? root = some store)
    (hstays : FileTree.staysBelow 0 node.segments = true)
    (hread : Reads t (chain root node) place) : store <+: place := by
  obtain ⟨d, hd, here, octets, hhere, rfl, -⟩ := hread
  obtain ⟨segments, hsegments, rfl⟩ := List.mem_map.1 hd
  obtain ⟨rest, hrest⟩ := (Path.mem_beginnings_iff _ _).1 hsegments
  rw [FileTree.locate?] at hstore
  rw [FileTree.locate?, Path.join, List.foldlM_append, hstore] at hhere
  rw [← hrest] at hstays
  have hstart : FileTree.staysBelow ([] : List String).length segments = true :=
    FileTree.staysBelow_of_append hstays
  have hbelow : store <+: here :=
    FileTree.below_of_staysBelow hstart (by rw [List.append_nil]; exact hhere)
  exact hbelow.trans (List.prefix_append _ _)

end TreeStore

namespace ConfigClient

open TreeStore

/-! ## What an answer depends on -/

variable {lookups : List (FileTree × String)} {uri : String} {t : FileTree} {root node : Path}
  {place : List String}

/-- What a client answers after other lookups. -/
def answerTo (lookups : List (FileTree × String)) (uri : String) (t : FileTree) :
    Except Failure Settings :=
  ((fresh.after lookups).get .standard t uri).answer

/-- The answer can be changed by what the file at the place says. -/
def DependsOn (lookups : List (FileTree × String)) (uri : String) (t : FileTree)
    (place : List String) : Prop :=
  ∃ t', t.Rewritten (· = place) t' ∧ answerTo lookups uri t' ≠ answerTo lookups uri t

theorem answerTo_eq_lookup : answerTo lookups uri t = lookup t uri :=
  (Tended.fresh.after lookups).get_answer t uri

/-- An answer is given by the store at the root, for the node below it. -/
theorem exists_root {settings : Settings} (h : answerTo lookups uri t = .ok settings) :
    ∃ path root, target uri = .ok ("file", path) ∧ rootOf t path = .ok root := by
  rw [answerTo_eq_lookup, lookup] at h
  cases htarget : target uri with
  | error failure =>
    rw [htarget] at h
    cases h
  | ok address =>
    obtain ⟨scheme, path⟩ := address
    simp only [htarget] at h
    split at h
    · next hscheme =>
      rw [TreeStore.lookup] at h
      cases hroot : rootOf t path with
      | error failure =>
        rw [hroot] at h
        cases h
      | ok root => exact ⟨path, root, by rw [hscheme], hroot⟩
    · cases h

section Answer

variable {path : Path} {places : List String → Prop} {t' : FileTree}

/-- Trees of the same shape are asked for the same directories. -/
theorem answerTo_eq_settings (htarget : target uri = .ok ("file", path))
    (hroot : rootOf t path = .ok root) (h : t.Rewritten places t') :
    answerTo lookups uri t'
      = TreeStore.settings t' root ⟨.relative, path.segments.drop root.segments.length⟩ := by
  rw [answerTo_eq_lookup, lookup_of_target htarget, TreeStore.lookup,
    ← rootOf_eq h.sameShape, hroot]

theorem answerTo_eq_of_unread (htarget : target uri = .ok ("file", path))
    (hroot : rootOf t path = .ok root) (hnode : path.below? root = some node)
    (h : t.Rewritten places t')
    (hunread : ∀ place, Reads t (chain root node) place → ¬places place) :
    answerTo lookups uri t' = answerTo lookups uri t := by
  obtain rfl := Option.some.inj (hnode.symm.trans (openable_of_rootOf hroot).2)
  rw [answerTo_eq_settings htarget hroot h,
    answerTo_eq_settings htarget hroot (FileTree.Rewritten.refl places t)]
  exact settings_eq_of_unread h hunread

theorem dependsOn_iff {settings : Settings} (hanswer : answerTo lookups uri t = .ok settings)
    (htarget : target uri = .ok ("file", path)) (hroot : rootOf t path = .ok root)
    (hnode : path.below? root = some node) :
    DependsOn lookups uri t place ↔ Reads t (chain root node) place := by
  constructor
  · rintro ⟨t', hrewritten, hne⟩
    by_contra hunread
    refine hne (answerTo_eq_of_unread htarget hroot hnode hrewritten fun q hq hplace => ?_)
    exact hunread (hplace ▸ hq)
  · rintro ⟨d, hd, here, octets, hhere, rfl, hentry⟩
    have hrewritten := FileTree.rewritten_write hentry [0xff]
    have hbroken : (t.write (here ++ [settingsName]) [0xff]).entry (here ++ [settingsName])
        = some (.file [0xff]) := by
      rw [FileTree.entry_write_of_file hentry, if_pos rfl]
    refine ⟨_, hrewritten, ?_⟩
    obtain rfl := Option.some.inj (hnode.symm.trans (openable_of_rootOf hroot).2)
    obtain ⟨failure, hfailure⟩ := settings_of_broken ⟨d, hd, here, octets, hhere, rfl, hentry⟩
      hbroken fun p => (hrewritten.sameShape.locate?_eq p).symm
    rw [hanswer, answerTo_eq_settings htarget hroot hrewritten, hfailure]
    intro heq
    cases heq

end Answer

/-- An answer comes from the store at a directory with a marker.  It depends on the settings files
of the directories to which the root and each beginning of the node lead, and on no other file.
That all of them stand in the directory with the marker or below is the same as that nothing which
files say elsewhere can change the answer, and so it is if the node never goes up further than it
went down. -/
theorem answer_within_store (lookups : List (FileTree × String)) (uri : String) (t : FileTree)
    {settings : Settings} (h : answerTo lookups uri t = .ok settings) :
    ∃ path root node store,
      target uri = .ok ("file", path) ∧ rootOf t path = .ok root ∧
        path.below? root = some node ∧ t.locate? root = some store ∧
        (∃ octets, t.entry (store ++ [markerName]) = some (.file octets)) ∧
        (∀ place, DependsOn lookups uri t place ↔ Reads t (chain root node) place) ∧
        ((∀ place, DependsOn lookups uri t place → store <+: place) ↔
          ∀ t', t.Rewritten (¬store <+: ·) t' →
            answerTo lookups uri t' = answerTo lookups uri t) ∧
        (FileTree.staysBelow 0 node.segments = true →
          ∀ place, DependsOn lookups uri t place → store <+: place) := by
  obtain ⟨path, root, htarget, hroot⟩ := exists_root h
  obtain ⟨-, hnode⟩ := openable_of_rootOf hroot
  obtain ⟨store, hstore, hmarker⟩ := exists_marker hroot
  have hdepends : ∀ place, DependsOn lookups uri t place ↔ Reads t (chain root _) place :=
    fun place => dependsOn_iff h htarget hroot hnode
  refine ⟨path, root, _, store, htarget, hroot, hnode, hstore, hmarker, hdepends, ⟨?_, ?_⟩, ?_⟩
  · intro hwithin t' hrewritten
    refine answerTo_eq_of_unread htarget hroot hnode hrewritten fun place hread hplace => ?_
    exact hplace (hwithin place ((hdepends place).2 hread))
  · rintro hsame place ⟨t', hrewritten, hne⟩
    by_contra houtside
    refine hne (hsame t' (hrewritten.mono fun q hq => ?_))
    exact hq ▸ houtside
  · intro hstays place hplace
    exact reads_below hstore hstays ((hdepends place).1 hplace)

/-- A store, and beside it a directory with settings of its own. -/
def besideTree : FileTree :=
  (((FileTree.empty.write ["store", "_CONFIG_STORE"] []).write ["store", "main.conf"]
    (Text.Utf8.encode "owner=store".toList)).write ["store", "a", "b", "main.conf"]
    (Text.Utf8.encode "depth=two".toList)).write ["other", "main.conf"]
    (Text.Utf8.encode "owner=other".toList)

theorem exists_ok_of_entries {answer : Except Failure Settings} {entries : List (String × String)}
    (h : answer.toOption.map (·.entries) = some entries) :
    ∃ settings, answer = .ok settings ∧ settings.entries = entries := by
  cases answer with
  | error failure => cases h
  | ok settings => exact ⟨settings, rfl, Option.some.inj h⟩

/-- Two dots behind the root lead to a directory outside of the store, whose settings are taken. -/
theorem dots_lead_out :
    ∃ settings,
      answerTo [] "file:///store/../other" besideTree = .ok settings ∧
        settings.entries = [("owner", "other")] ∧
        target "file:///store/../other" = .ok ("file", ⟨.absolute, ["store", "..", "other"]⟩) ∧
        rootOf besideTree ⟨.absolute, ["store", "..", "other"]⟩ = .ok ⟨.absolute, ["store"]⟩ ∧
        besideTree.locate? ⟨.absolute, ["store"]⟩ = some ["store"] ∧
        DependsOn [] "file:///store/../other" besideTree ["other", "main.conf"] ∧
        ¬["store"] <+: ["other", "main.conf"] := by
  have htarget : target "file:///store/../other"
      = .ok ("file", ⟨.absolute, ["store", "..", "other"]⟩) := rfl
  have hroot : rootOf besideTree ⟨.absolute, ["store", "..", "other"]⟩
      = .ok ⟨.absolute, ["store"]⟩ := rfl
  obtain ⟨settings, hanswer, hentries⟩ :
      ∃ settings, answerTo [] "file:///store/../other" besideTree = .ok settings ∧
        settings.entries = [("owner", "other")] :=
    exists_ok_of_entries (by decide +kernel)
  refine ⟨settings, hanswer, hentries, htarget, hroot, rfl, ?_, by decide⟩
  refine (dependsOn_iff hanswer htarget hroot rfl).2 ?_
  exact ⟨⟨.absolute, ["store", "..", "other"]⟩, by decide, ["other"], _, rfl, rfl, rfl⟩

theorem answer_within_store_of_deep :
    ∃ settings,
      answerTo [] "file:///store/a/b/../c" besideTree = .ok settings ∧
        settings.entries = [("depth", "two"), ("owner", "store")] ∧
        DependsOn [] "file:///store/a/b/../c" besideTree ["store", "main.conf"] ∧
        ∀ t', besideTree.Rewritten (¬["store"] <+: ·) t' →
          answerTo [] "file:///store/a/b/../c" t' = .ok settings := by
  have htarget : target "file:///store/a/b/../c"
      = .ok ("file", ⟨.absolute, ["store", "a", "b", "..", "c"]⟩) := rfl
  have hroot : rootOf besideTree ⟨.absolute, ["store", "a", "b", "..", "c"]⟩
      = .ok ⟨.absolute, ["store"]⟩ := rfl
  obtain ⟨settings, hanswer, hentries⟩ :
      ∃ settings, answerTo [] "file:///store/a/b/../c" besideTree = .ok settings ∧
        settings.entries = [("depth", "two"), ("owner", "store")] :=
    exists_ok_of_entries (by decide +kernel)
  obtain ⟨path, root, node, store, htarget', hroot', hnode, hstore, -, hdepends, hequiv, hstays⟩ :=
    answer_within_store [] "file:///store/a/b/../c" besideTree hanswer
  obtain rfl := (Prod.mk.inj (Except.ok.inj (htarget.symm.trans htarget'))).2
  obtain rfl := Except.ok.inj (hroot.symm.trans hroot')
  obtain rfl : (⟨.relative, ["a", "b", "..", "c"]⟩ : Path) = node := Option.some.inj hnode
  obtain rfl : ["store"] = store := Option.some.inj hstore
  refine ⟨settings, hanswer, hentries, (hdepends _).2 ?_, fun t' ht' => ?_⟩
  · exact ⟨⟨.absolute, ["store"]⟩, by decide, ["store"], _, rfl, rfl, rfl⟩
  · rw [hequiv.1 (hstays (by decide)) t' ht', hanswer]

end ConfigClient
end CatalogScout
