import CatalogScout.Discovery.Finder
import CatalogScout.Proofs.Store.Node

/-!
Flags of tables in a store.

A flag is a word that means yes or no.  Which file of a store decides over a flag of a table is told
here by the files on the way to the table's node, and by the key that the flag has in the scope of
a job.
-/

namespace CatalogScout

open Text

/-! ## Yes and no -/

namespace Settings

def yesWords : List String := ["true", "yes", "on", "1"]

def noWords : List String := ["false", "no", "off", "0"]

/-- The value is one of the words, if the blanks around it and its case do not count. -/
def IsWord (words : List String) (value : String) : Prop :=
  String.ofList (lowerText (trim value.toList)) ∈ words

instance (words : List String) (value : String) : Decidable (IsWord words value) :=
  inferInstanceAs (Decidable (_ ∈ words))

theorem truthOf?_eq (word : List Char) :
    truthOf? word = if String.ofList word ∈ yesWords then some true
      else if String.ofList word ∈ noWords then some false else none := by
  show (if yesWords.any (·.toList == word) = true then some true
    else if noWords.any (·.toList == word) = true then some false else none) = _
  simp only [List.any_toList_iff]

theorem not_yes_of_no {value : String} (h : IsWord noWords value) : ¬IsWord yesWords value := by
  have hapart : ∀ s ∈ noWords, s ∉ yesWords := by decide
  exact hapart _ h

section Boolean

variable {s : Settings} {key : String}

theorem boolean_of_some {value : String} (h : s.get? key = some value) (default : Bool) :
    s.boolean key default
      = if IsWord yesWords value then .ok true
        else if IsWord noWords value then .ok false else .error (.notABoolean key value) := by
  have htruth : truthOf? (lowerText (trim value.toList))
      = if IsWord yesWords value then some true
        else if IsWord noWords value then some false else none := truthOf?_eq _
  simp only [boolean, h, htruth]
  by_cases hyes : IsWord yesWords value
  · simp only [if_pos hyes]
  · by_cases hno : IsWord noWords value
    · simp only [if_neg hyes, if_pos hno]
    · simp only [if_neg hyes, if_neg hno]

theorem boolean_eq_true_iff :
    s.boolean key false = .ok true ↔ ∃ value, s.get? key = some value ∧ IsWord yesWords value := by
  cases hvalue : s.get? key with
  | none => simp [boolean, hvalue]
  | some value =>
    rw [boolean_of_some hvalue]
    by_cases hyes : IsWord yesWords value
    · simp [hyes]
    · by_cases hno : IsWord noWords value <;> simp [hyes, hno]

theorem boolean_eq_false_iff :
    s.boolean key false = .ok false ↔
      s.get? key = none ∨ ∃ value, s.get? key = some value ∧ IsWord noWords value := by
  cases hvalue : s.get? key with
  | none => simp [boolean, hvalue]
  | some value =>
    rw [boolean_of_some hvalue]
    by_cases hno : IsWord noWords value
    · simp [hno, not_yes_of_no hno]
    · by_cases hyes : IsWord yesWords value <;> simp [hyes, hno]

end Boolean
end Settings

/-! ## The key in the store -/

namespace ConfigSource

/-- The key under which a store says that a table opts out of a job. -/
def optOutName (job : Settings) : String :=
  match job.get? Job.configScopeKey with
  | none => Finder.optOutKey
  | some scope =>
    if isBlankString scope then Finder.optOutKey
    else String.ofList (dropTrailing '.' (trim scope.toList)) ++ "." ++ Finder.optOutKey

theorem base_withScope (source : ConfigSource) (scope : Option String) :
    (source.withScope scope).base = source.base := by
  cases scope with
  | none => rfl
  | some scope =>
    rw [withScope]
    split <;> rfl

theorem base_ofJob {job : Settings} {uri : String} (h : job.get? Job.storeUriKey = some uri)
    (hne : uri ≠ "") : (ofJob job).base = .store (storeRoot uri) := by
  have huri : Job.nonEmpty? job Job.storeUriKey = some uri := by
    rw [Job.nonEmpty?, h, Option.filter_some]
    simp [hne]
  simp only [ofJob, huri, base_withScope]
  rfl

/-- Narrowing happens after merging, so it is the merged settings that are asked for the key. -/
theorem get?_narrow (job s : Settings) :
    ((ofJob job).narrow s).get? Finder.optOutKey = s.get? (optOutName job) := by
  have hscopes : ∃ source : ConfigSource, source.scopes = [] ∧
      ofJob job = source.withScope (job.get? Job.configScopeKey) := by
    unfold ofJob
    split
    · exact ⟨_, rfl, rfl⟩
    · exact ⟨_, rfl, rfl⟩
  have hkey : ∀ scope, String.ofList (Settings.scopeHead scope ++ Finder.optOutKey.toList)
      = String.ofList (dropTrailing '.' (trim scope.toList)) ++ "." ++ Finder.optOutKey := by
    intro scope
    refine (Settings.toList_ofList_eq.2 ?_).symm
    rw [String.toList_append, String.toList_append, String.toList_ofList]
    rfl
  obtain ⟨source, hnone, hsource⟩ := hscopes
  rw [hsource, optOutName]
  cases job.get? Job.configScopeKey with
  | none => rw [withScope, narrow, hnone]; rfl
  | some scope =>
    by_cases hblank : isBlankString scope = true
    · rw [withScope, if_pos hblank, narrow, hnone]
      simp only [hblank, if_true]
      rfl
    · simp only [withScope, if_neg hblank, narrow, hnone, List.nil_append, List.foldl_cons,
        List.foldl_nil, Settings.get?_within, hkey]

end ConfigSource

/-! ## What the store says -/

namespace ConfigClient

open TreeStore CatalogScout.Path ConfigSource

/-- The deepest settings file with the key, from the nearest marked directory down, gives it this
value. -/
def Decides (t : FileTree) (way : List String) (key value : String) : Prop :=
  ∃ k, Greatest (Marked t way) way.length k ∧
    ∃ j, Greatest (fun i => k ≤ i ∧ ∃ v, Defines t way i key v) way.length j ∧
      Defines t way j key value

/-- All settings files are text. -/
def TextTree (t : FileTree) : Prop :=
  ∀ directory octets, t.entry (directory ++ ["main.conf"]) = some (.file octets) →
    ∃ text, octets = Utf8.encode text

theorem textTree_empty : TextTree FileTree.empty := by
  intro directory octets h
  have hentry : FileTree.empty.entry (directory ++ ["main.conf"]) = none := by
    simp [FileTree.empty]
  rw [hentry] at h
  cases h

/-- Text may be written anywhere. -/
theorem TextTree.write {t : FileTree} (h : TextTree t) (target : List String) (text : List Char) :
    TextTree (t.write target (Utf8.encode text)) := by
  intro directory octets hentry
  cases hlast : target.getLast? with
  | none =>
    simp only [FileTree.write, FileTree.put, hlast] at hentry
    exact h directory octets hentry
  | some last =>
    simp only [FileTree.write, FileTree.put, hlast] at hentry
    change (if _ then _ else if _ then _ else if _ then _ else _) = _ at hentry
    split at hentry
    · cases hentry
    · split at hentry
      · cases hentry
        exact ⟨text, rfl⟩
      · split at hentry
        · cases hentry
        · exact h directory octets hentry

/-- The settings of a table below a marked directory are what its store decides. -/
theorem lookup_node {t : FileTree} (htext : TextTree t) {directory : List String}
    (hdirectory : ∀ s ∈ directory, Ordinary s) (hmarked : Marked t directory directory.length)
    (slashes : Nat) {n : TableName} (hdb : Ordinary n.db) (htable : Ordinary n.table) :
    ∃ settings, lookup t (nodeUri (storeRoot (storeUri directory slashes)) n) = .ok settings ∧
      ∀ key value, settings.get? key = some value ↔ Decides t (n.way directory) key value := by
  have hway := ordinary_way hdirectory hdb htable
  have htake : (n.way directory).take directory.length = directory := List.take_left
  obtain ⟨octets, hmarker⟩ := hmarked
  rw [List.take_length] at hmarker
  have hlength : directory.length ≤ (n.way directory).length := by
    rw [TableName.way, List.length_append]
    omega
  obtain ⟨k, hk⟩ := exists_greatest_marked hway hlength
    (⟨octets, by rw [htake]; exact hmarker⟩ : Marked t (n.way directory) directory.length)
  obtain ⟨settings, hsettings, hget⟩ := wayDown_ok (t := t) hway hk.1
    fun j octets _ _ hholds => htext _ octets hholds.2
  refine ⟨settings, ?_, fun key value => ?_⟩
  · rw [← tableSettings_eq [] t (storeUri directory slashes) n,
      tableSettings_of_ordinary hdirectory hdb htable, answerAfter_of_marked hway hk]
    exact hsettings
  · rw [hget]
    constructor
    · intro hdeepest
      exact ⟨k, hk, hdeepest⟩
    · rintro ⟨k', hk', hdeepest⟩
      rwa [hk.unique hk']

end ConfigClient
end CatalogScout
