import CatalogScout.Failure
import CatalogScout.Settings.Basic
import CatalogScout.Text.Blank
import CatalogScout.Text.Case
import CatalogScout.Text.Decimal

/-!
Reading single values out of settings, and narrowing settings to the keys of one purpose.
-/

namespace CatalogScout
namespace Settings

open Text

def string (s : Settings) (key : String) (default : Option String) : Option String :=
  (s.get? key).or default

/-- An absent or blank value is the default. -/
def integer (s : Settings) (key : String) (default : Int) : Except Failure Int :=
  match s.get? key with
  | none => .ok default
  | some value =>
    if isBlankString value then .ok default
    else
      match readInteger? (trim value.toList) with
      | some n => .ok n
      | none => .error (.notAnInteger key value)

/-- The words for yes and no, in lower case. -/
def truthOf? (word : List Char) : Option Bool :=
  if ["true", "yes", "on", "1"].any (·.toList == word) then some true
  else if ["false", "no", "off", "0"].any (·.toList == word) then some false
  else none

/-- An absent value is the default, a blank one is an error. -/
def boolean (s : Settings) (key : String) (default : Bool) : Except Failure Bool :=
  match s.get? key with
  | none => .ok default
  | some value =>
    match truthOf? (lowerText (trim value.toList)) with
    | some b => .ok b
    | none => .error (.notABoolean key value)

/-! ## Scopes -/

/-- The beginning of the keys in a scope: the scope's name, trimmed of blanks and then of dots
behind, and one dot. -/
def scopeHead (scope : String) : List Char := dropTrailing '.' (trim scope.toList) ++ ['.']

/-- The entry without the beginning of its key. -/
def scopedPair? (head : List Char) (e : String × String) : Option (String × String) :=
  (dropBeginning head e.1.toList).map fun rest => (String.ofList rest, e.2)

/-- The entries whose keys begin with the scope, under the rest of their keys. -/
def within (s : Settings) (scope : String) : Settings :=
  ofList (s.entries.filterMap (scopedPair? (scopeHead scope)))

/-! ## Laws of scopes -/

theorem toList_ofList_eq {s : String} {l : List Char} : s = String.ofList l ↔ s.toList = l := by
  constructor
  · rintro rfl
    simp
  · rintro rfl
    simp

theorem get?_within (s : Settings) (scope key : String) :
    (s.within scope).get? key = s.get? (String.ofList (scopeHead scope ++ key.toList)) := by
  rw [within, get?_ofList]
  refine lastValue?_eq_of_mem_iff
    (f := fun k => s.get? (String.ofList (scopeHead scope ++ k.toList))) (fun k v => ?_) key
  simp only [List.mem_filterMap, scopedPair?, Option.map_eq_some_iff, Prod.mk.injEq]
  constructor
  · rintro ⟨⟨k', v'⟩, he, rest, hd, hk, rfl⟩
    rw [dropBeginning_eq_some_iff] at hd
    have : k' = String.ofList (scopeHead scope ++ k.toList) := by
      rw [toList_ofList_eq, hd, ← hk]
      simp
    exact this ▸ (mem_entries_iff s k' v').1 he
  · intro h
    refine ⟨(String.ofList (scopeHead scope ++ k.toList), v), (mem_entries_iff s _ v).2 h,
      k.toList, ?_, by simp, rfl⟩
    rw [dropBeginning_eq_some_iff]
    simp

end Settings
end CatalogScout
