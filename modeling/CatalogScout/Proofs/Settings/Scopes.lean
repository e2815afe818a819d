import CatalogScout.Settings.Reading

/-!
What a scope leaves of settings.

Settings within a scope know nothing but the values under the keys that begin with the scope and a
dot.  Narrowing to a scope can be done before or after one lets settings override each other.
-/

namespace CatalogScout
namespace Settings

/-- The values are the same under all keys that begin with the scope, which is trimmed, and a
dot. -/
def AgreeIn (scope : String) (s t : Settings) : Prop :=
  ∀ key, scopeHead scope <+: key.toList → s.get? key = t.get? key

theorem AgreeIn.refl (scope : String) (s : Settings) : AgreeIn scope s s := fun _ _ => rfl

theorem within_eq_iff {scope : String} {s t : Settings} :
    s.within scope = t.within scope ↔ AgreeIn scope s t := by
  constructor
  · intro h key hbegin
    obtain ⟨rest, hrest⟩ := hbegin
    have hkey : key = String.ofList (scopeHead scope ++ (String.ofList rest).toList) := by
      rw [toList_ofList_eq, String.toList_ofList, hrest]
    rw [hkey, ← get?_within, ← get?_within, h]
  · intro h
    apply ext_get?
    intro key
    rw [get?_within, get?_within]
    apply h
    rw [String.toList_ofList]
    exact List.prefix_append _ _

/-- The key of the entry begins with the scope and a dot. -/
def inScope (scope : String) (e : String × String) : Bool :=
  (scopeHead scope).isPrefixOf e.1.toList

/-- Of entries only those count whose keys are in the scope. -/
theorem agreeIn_ofList {scope : String} {entries entries' : List (String × String)}
    (h : entries.filter (inScope scope) = entries'.filter (inScope scope)) :
    AgreeIn scope (ofList entries) (ofList entries') := by
  intro key hbegin
  have hfilter : ∀ entries : List (String × String),
      lastValue? (entries.filter (inScope scope)) key = lastValue? entries key := by
    intro entries
    have hkey : (fun e : String × String => inScope scope e && e.1 == key)
        = fun e => e.1 == key := by
      funext e
      by_cases he : e.1 = key
      · simp [inScope, he, hbegin]
      · simp [he]
    rw [lastValue?, lastValue?, ← List.filter_reverse, List.find?_filter]
    simp only [Bool.decide_and, Bool.decide_eq_true, hkey]
  rw [get?_ofList, get?_ofList, ← hfilter, h, hfilter]

@[simp]
theorem within_empty (scope : String) : (∅ : Settings).within scope = ∅ := rfl

@[simp]
theorem within_override (s t : Settings) (scope : String) :
    (s.override t).within scope = (s.within scope).override (t.within scope) := by
  apply ext_get?
  intro key
  rw [get?_within, get?_override, get?_override, get?_within, get?_within]

/-- What a scope leaves of settings that override each other in turn is what it leaves of each of
them, overriding each other in turn, and a failure on the way is the same. -/
theorem within_foldlM {α : Type} (own : α → Except Failure Settings) (scope : String)
    (places : List α) (s : Settings) :
    (places.foldlM (fun s p => s.override <$> own p) s).map (·.within scope)
      = places.foldlM (fun s p => s.override <$> (own p).map (·.within scope))
          (s.within scope) := by
  induction places generalizing s with
  | nil => rfl
  | cons p places ih =>
    rw [List.foldlM_cons, List.foldlM_cons]
    cases own p with
    | error failure => rfl
    | ok t =>
      have hrest := ih (s.override t)
      rw [within_override] at hrest
      exact hrest

end Settings
end CatalogScout
