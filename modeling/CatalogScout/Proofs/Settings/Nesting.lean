import CatalogScout.ConfigSource
import Mathlib.Data.String.Basic

/-!
Scopes inside of scopes.

Settings that are narrowed to one scope after another answer for the keys that begin with the names
of all of these scopes, in their order and with dots between, and nothing else of them is left.  A
common beginning does not change the order of keys, so what is left is, entry for entry, the part of
the settings under that beginning.
-/

namespace CatalogScout

open Text

namespace Settings

/-- The name of a scope in keys: its text, trimmed of blanks and then of dots behind. -/
def scopeName (scope : String) : String := String.ofList (dropTrailing '.' (trim scope.toList))

/-- The names of scopes, in their order and with dots between. -/
def nestedName (scopes : List String) : String := ".".intercalate (scopes.map scopeName)

theorem nestedName_singleton (scope : String) : nestedName [scope] = scopeName scope := by
  rw [nestedName, List.map_singleton, ← String.toList_inj, String.toList_intercalate]
  simp

theorem nestedName_cons (scope : String) {scopes : List String} (hne : scopes ≠ []) :
    nestedName (scope :: scopes) = scopeName scope ++ "." ++ nestedName scopes := by
  have hmap : (scopes.map scopeName).map String.toList ≠ [] := by simpa using hne
  rw [← String.toList_inj, String.toList_append, String.toList_append, nestedName, nestedName,
    String.toList_intercalate, String.toList_intercalate, List.map_cons, List.map_cons,
    List.intercalate_cons_of_ne_nil hmap]

/-- A scope is asked for keys behind its name. -/
theorem get?_within_name (s : Settings) (scope key : String) :
    (s.within scope).get? key = s.get? (scopeName scope ++ "." ++ key) := by
  have hkey : String.ofList (scopeHead scope ++ key.toList) = scopeName scope ++ "." ++ key := by
    refine (toList_ofList_eq.2 ?_).symm
    rw [String.toList_append, String.toList_append, scopeName, String.toList_ofList]
    rfl
  rw [get?_within, hkey]

/-- Scopes in turn are asked for keys behind all their names. -/
theorem get?_foldl_within {scopes : List String} (hne : scopes ≠ []) (s : Settings)
    (key : String) :
    (scopes.foldl within s).get? key = s.get? (nestedName scopes ++ "." ++ key) := by
  induction scopes generalizing s with
  | nil => exact absurd rfl hne
  | cons scope scopes ih =>
    rw [List.foldl_cons]
    by_cases hlast : scopes = []
    · rw [hlast, List.foldl_nil, nestedName_singleton, get?_within_name]
    · rw [ih hlast, get?_within_name, nestedName_cons scope hlast]
      simp only [String.append_assoc]

/-- The key of the entry begins with the text. -/
def beginsWith (head : String) (e : String × String) : Bool :=
  head.toList.isPrefixOf e.1.toList

/-- Settings that answer what others answer behind a text are the entries of these whose keys begin
with the text: each of them is there once, with its value, under the rest of its key. -/
theorem map_entries_eq_filter {s t : Settings} {head : String}
    (h : ∀ key, t.get? key = s.get? (head ++ key)) :
    t.entries.map (fun e => (head ++ e.1, e.2)) = s.entries.filter (beginsWith head) := by
  apply eq_of_mem_iff
  · rw [List.pairwise_map]
    refine t.sorted.imp fun {a b} hab => ?_
    rw [String.lt_iff_toList_lt] at hab ⊢
    rw [String.toList_append, String.toList_append]
    exact List.append_left_lt hab
  · exact s.sorted.filter _
  · rintro ⟨key, value⟩
    rw [List.mem_filter, mem_entries_iff, List.mem_map, beginsWith, List.isPrefixOf_iff_prefix]
    constructor
    · rintro ⟨⟨rest, v⟩, hmem, heq⟩
      obtain ⟨rfl, rfl⟩ := Prod.mk.inj heq
      refine ⟨?_, ?_⟩
      · rw [← h]
        exact (mem_entries_iff t rest v).1 hmem
      · rw [String.toList_append]
        exact List.prefix_append _ _
    · rintro ⟨hget, rest, hrest⟩
      have hkey : head ++ String.ofList rest = key := by
        rw [← String.toList_inj, String.toList_append, String.toList_ofList, hrest]
      refine ⟨(String.ofList rest, value), (mem_entries_iff t _ _).2 ?_, ?_⟩
      · rw [h, hkey]
        exact hget
      · rw [hkey]

end Settings

namespace ConfigSource

open Settings

/-- The scopes that narrow a source: those that are not blank. -/
def narrowing (scopes : List (Option String)) : List String :=
  scopes.filterMap (·.filter fun scope => !isBlankString scope)

theorem mem_narrowing_iff {scopes : List (Option String)} {scope : String} :
    scope ∈ narrowing scopes ↔ some scope ∈ scopes ∧ isBlankString scope = false := by
  simp [narrowing, Option.filter_eq_some_iff]

theorem withScope_eq (source : ConfigSource) (scope : Option String) :
    source.withScope scope = { source with scopes := source.scopes ++ narrowing [scope] } := by
  cases scope with
  | none => simp [withScope, narrowing]
  | some scope =>
    cases hblank : isBlankString scope <;>
      simp [withScope, narrowing, Option.filter_some, hblank]

/-- Scopes that are applied in turn narrow in turn. -/
theorem foldl_withScope (source : ConfigSource) (scopes : List (Option String)) :
    scopes.foldl withScope source
      = { source with scopes := source.scopes ++ narrowing scopes } := by
  induction scopes generalizing source with
  | nil => simp [narrowing]
  | cons scope scopes ih =>
    have hcons : narrowing (scope :: scopes) = narrowing [scope] ++ narrowing scopes := by
      rw [narrowing, narrowing, narrowing, ← List.filterMap_append, List.singleton_append]
    rw [List.foldl_cons, ih, withScope_eq, hcons, List.append_assoc]

/-- Scopes over the settings of a job compose to one.  If none of them narrows, every table has the
settings of the job.  Otherwise it has exactly the entries under the names of the narrowing scopes,
joined with dots: what is asked for a key is what the job says behind these names, no two entries of
the job fall together, and none under these names is lost or has another value. -/
theorem scopes_compose (job : Settings) (scopes : List (Option String)) (n : TableName) :
    ∃ settings : Settings,
      (∀ (State : Type) (service : ConfigService State) (state : State),
        (scopes.foldl withScope (ofSettings job)).resolve service state n
          = ⟨.ok settings, [], state⟩) ∧
      ((∀ scope, some scope ∈ scopes → isBlankString scope = true) → settings = job) ∧
      ((∃ scope, some scope ∈ scopes ∧ isBlankString scope = false) →
        let head := nestedName (narrowing scopes) ++ "."
        (∀ key, settings.get? key = job.get? (head ++ key)) ∧
        settings.entries.map (fun e => (head ++ e.1, e.2))
          = job.entries.filter (beginsWith head)) := by
  refine ⟨(narrowing scopes).foldl within job, ?_, ?_, ?_⟩
  · intro State service state
    rw [foldl_withScope]
    rfl
  · intro hblank
    have hnone : narrowing scopes = [] := by
      refine List.eq_nil_iff_forall_not_mem.2 fun scope hscope => ?_
      obtain ⟨hmem, hfull⟩ := mem_narrowing_iff.1 hscope
      rw [hblank scope hmem] at hfull
      cases hfull
    rw [hnone, List.foldl_nil]
  · rintro ⟨scope, hscope⟩
    have hne : narrowing scopes ≠ [] := List.ne_nil_of_mem (mem_narrowing_iff.2 hscope)
    have hget := get?_foldl_within hne job
    exact ⟨hget, map_entries_eq_filter hget⟩

/-- Two jobs share a file, and the name of one of them begins like that of the other. -/
def copyJob : Settings :=
  .ofList [("copy.a.owner", "ann"), ("copy.a..x", "1"), ("copyall.a.owner", "bob"),
    ("copy.all.owner", "eve"), ("copy.a.", "2")]

def copyScopes : List (Option String) := [some " copy.. ", none, some "  ", some "a."]

theorem scopes_compose_of_copy :
    some "a." ∈ copyScopes ∧ isBlankString "a." = false ∧
      ∃ settings : Settings,
        (copyScopes.foldl withScope (ofSettings copyJob)).resolve
            (fun s _ => ⟨.ok ∅, [], s⟩ : ConfigService Unit) () ⟨"db", "t"⟩
          = ⟨.ok settings, [], ()⟩ ∧
        settings.get? "owner" = some "ann" ∧
        settings.entries.map (fun e => ("copy.a." ++ e.1, e.2))
          = [("copy.a.", "2"), ("copy.a..x", "1"), ("copy.a.owner", "ann")] := by
  have hmem : some "a." ∈ copyScopes := by decide
  obtain ⟨settings, hresolve, -, hnarrowed⟩ := scopes_compose copyJob copyScopes ⟨"db", "t"⟩
  obtain ⟨hget, hentries⟩ := hnarrowed ⟨"a.", hmem, by decide⟩
  have hhead : nestedName (narrowing copyScopes) ++ "." = "copy.a." := by decide +kernel
  rw [hhead] at hentries
  refine ⟨hmem, by decide, settings, hresolve Unit _ (), ?_, ?_⟩
  · rw [hget, hhead]
    decide +kernel
  · rw [hentries]
    decide +kernel

end ConfigSource
end CatalogScout
