import CatalogScout.Selection

/-!
The rules of a policy, and its decisions, said by its rules.
-/

namespace CatalogScout
namespace Policy

theorem readAll_of_ofTexts [Text.CharacterNames] {whitelist blacklist : String} {ignoreCase : Bool}
    {p : Policy} (h : ofTexts whitelist blacklist ignoreCase = .ok p) :
    Rule.readAll ignoreCase whitelist.toList = .ok p.included ∧
      Rule.readAll ignoreCase blacklist.toList = .ok p.excluded := by
  unfold ofTexts at h
  split at h
  · cases h
  · split at h
    · cases h
    · obtain rfl := Except.ok.inj h
      exact ⟨by assumption, by assumption⟩

theorem accepts_iff (p : Policy) (db table : String) :
    p.accepts db table = true ↔
      (p.included = [] ∨ ∃ r ∈ p.included, r.covers db table = true) ∧
        ∀ r ∈ p.excluded, r.covers db table = false := by
  simp [accepts]

theorem acceptsDatabase_iff (p : Policy) (db : String) :
    p.acceptsDatabase db = true ↔
      (p.included = [] ∨ ∃ r ∈ p.included, r.coversDatabase db = true) ∧
        ∀ r ∈ p.excluded, r.coversDatabase db = true → r.coversAllTables = false := by
  simp [acceptsDatabase]

/-- A rejected database has no accepted table. -/
theorem acceptsDatabase_of_accepts {p : Policy} {db table : String}
    (h : p.accepts db table = true) : p.acceptsDatabase db = true := by
  rw [accepts_iff] at h
  obtain ⟨hin, hout⟩ := h
  rw [acceptsDatabase_iff]
  constructor
  · rcases hin with hempty | ⟨r, hr, hc⟩
    · exact Or.inl hempty
    · exact Or.inr ⟨r, hr, (Bool.and_eq_true_iff.1 hc).1⟩
  · intro r hr hdb
    have hc := hout r hr
    -- A rule for all tables of the database would cover this one too.
    cases hall : r.coversAllTables with
    | false => rfl
    | true => simp [Rule.covers, Rule.coversTable, hdb, hall] at hc

end Policy
end CatalogScout
