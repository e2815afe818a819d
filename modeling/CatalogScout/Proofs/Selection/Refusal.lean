import CatalogScout.Proofs.Lists
import CatalogScout.Proofs.Pattern.Counts
import CatalogScout.Proofs.Text.Trim
import CatalogScout.Selection

/-!
Why a selection is refused.

A selection is read token by token, and a token part by part; whatever refuses a part refuses the
whole.  Most of what can be wrong is reported as a bad value.  Two things are not: a token that has
no part at all, since nothing but dots and blanks stands in it, and a count in braces that is no
machine number.
-/

namespace CatalogScout

open Text Pattern

variable {failure : Failure}

namespace Failure

theorem isBadValue_badPattern {fault : Pattern.Fault} (h : fault ≠ .countTooLarge)
    (source : List Char) : (badPattern source fault).isBadValue = true := by
  cases fault with
  | countTooLarge => exact absurd rfl h
  | _ => rfl

end Failure

namespace Rule

/-! ## Pieces -/

theorem infix_of_mem_pieces {sep : Char} {s p : List Char} (h : p ∈ pieces sep s) :
    p <:+: s := by
  obtain ⟨hmem, -⟩ := List.mem_filter.1 h
  obtain ⟨q, hq, rfl⟩ := List.mem_map.1 hmem
  exact (trim_isInfix q).trans (infix_of_mem_fields hq)

theorem not_mem_of_mem_pieces {sep : Char} {s p : List Char} (h : p ∈ pieces sep s) :
    sep ∉ p := by
  obtain ⟨hmem, -⟩ := List.mem_filter.1 h
  obtain ⟨q, hq, rfl⟩ := List.mem_map.1 hmem
  exact fun hsep => not_mem_of_mem_fields hq ((trim_isInfix q).subset hsep)

theorem pieces_eq_nil_iff (sep : Char) (s : List Char) :
    pieces sep s = [] ↔ ∀ c ∈ s, c = sep ∨ isBlank c = true := by
  have hnil : pieces sep s = [] ↔ ∀ p ∈ fields sep s, isBlankText p = true := by
    simp [pieces, List.filter_eq_nil_iff, trim_eq_nil_iff]
  rw [hnil]
  constructor
  · intro h c hc
    by_cases hsep : c = sep
    · exact Or.inl hsep
    · obtain ⟨p, hp, hcp⟩ := exists_field_of_mem hsep hc
      exact Or.inr (List.all_eq_true.1 (h p hp) c hcp)
  · intro h p hp
    refine List.all_eq_true.2 fun c hc => ?_
    have hne : c ≠ sep := fun heq => not_mem_of_mem_fields hp (heq ▸ hc)
    exact (h c ((infix_of_mem_fields hp).subset hc)).resolve_left hne

/-! ## Tokens -/

/-- What a token has in it that is refused, but not as a bad value. -/
inductive Unforeseen (token : List Char) : Failure → Prop where
  | noPart (h : ∀ c ∈ token, c = '.' ∨ isBlank c = true) : Unforeseen token .emptyToken
  | count {part digits : List Char} (hlarge : TooLarge digits)
      (hin : '\x7b' :: digits ++ ['\x7d'] <:+: part) (hpart : part <:+: token) :
      Unforeseen token (.badPattern part .countTooLarge)

def Refused (token : List Char) (failure : Failure) : Prop :=
  failure.isBadValue = true ∨ Unforeseen token failure

/-- Between the separators of a selection a count has no comma in front or behind. -/
theorem braces_of_hasTooLarge {text : List Char} (h : HasTooLarge text) (hcomma : ',' ∉ text) :
    ∃ digits, TooLarge digits ∧ '\x7b' :: digits ++ ['\x7d'] <:+: text := by
  obtain ⟨front, digits, back, hfront, hback, hlarge, hin⟩ := h
  have hchars : ∀ c ∈ front :: digits ++ [back], c ≠ ',' := by
    rintro c hc rfl
    exact hcomma (hin.subset hc)
  have hopen : front = '\x7b' := by
    have hne := hchars front (by simp)
    simpa [hne] using hfront
  have hclose : back = '\x7d' := by
    have hne := hchars back (by simp)
    simpa [hne] using hback
  subst hopen hclose
  exact ⟨digits, hlarge, hin⟩

variable [CharacterNames] {ignoreCase : Bool} {token : List Char}

theorem refused_of_readPattern {part : List Char} (hcomma : ',' ∉ token)
    (hpart : part <:+: token) (h : readPattern ignoreCase part = .error failure) :
    Refused token failure := by
  unfold readPattern at h
  split at h
  · cases h
  · next fault hfault =>
    obtain rfl := Except.error.inj h
    by_cases hcount : fault = .countTooLarge
    · subst hcount
      have hlarge := hasTooLarge_of_starred (hasTooLarge_of_compile hfault)
      obtain ⟨digits, hdigits, hin⟩ :=
        braces_of_hasTooLarge hlarge fun hc => hcomma (hpart.subset hc)
      exact Or.inr (.count hdigits hin hpart)
    · exact Or.inl (Failure.isBadValue_badPattern hcount part)

theorem refused_of_readTables {names : List Char} (hcomma : ',' ∉ token)
    (hnames : names <:+: token) (h : readTables ignoreCase names = .error failure) :
    Refused token failure := by
  simp only [readTables] at h
  split at h
  · cases h
  · obtain ⟨name, hname, h⟩ := List.exists_of_mapM_error h
    exact refused_of_readPattern hcomma ((infix_of_mem_pieces hname).trans hnames) h

theorem refused_of_ofToken (hcomma : ',' ∉ token)
    (h : ofToken ignoreCase token = .error failure) : Refused token failure := by
  have hpart : ∀ p ∈ pieces '.' token, p <:+: token := fun _ => infix_of_mem_pieces
  unfold ofToken at h
  split at h
  · next hnone =>
    obtain rfl := Except.error.inj h
    exact Or.inr (.noPart ((pieces_eq_nil_iff '.' token).1 hnone))
  · next db hparts =>
    rw [hparts] at hpart
    rcases Except.of_bind_error h with hdb | ⟨database, -, h⟩
    · exact refused_of_readPattern hcomma (hpart db (by simp)) hdb
    · cases h
  · next db names hparts =>
    rw [hparts] at hpart
    rcases Except.of_bind_error h with hdb | ⟨database, -, h⟩
    · exact refused_of_readPattern hcomma (hpart db (by simp)) hdb
    · rcases Except.of_bind_error h with htables | ⟨tables, -, h⟩
      · exact refused_of_readTables hcomma (hpart names (by simp)) htables
      · cases h
  · obtain rfl := Except.error.inj h
    exact Or.inl rfl

/-! ## Selections -/

/-- A token of the selection is refused with this failure. -/
def RefusedIn (selection : String) (failure : Failure) : Prop :=
  ∃ token ∈ pieces ',' selection.toList, Refused token failure

theorem refusedIn_of_readAll {selection : String}
    (h : readAll ignoreCase selection.toList = .error failure) : RefusedIn selection failure := by
  obtain ⟨token, htoken, h⟩ := List.exists_of_mapM_error h
  exact ⟨token, htoken, refused_of_ofToken (not_mem_of_mem_pieces htoken) h⟩

end Rule

theorem Policy.refusedIn_of_ofTexts [CharacterNames] {whitelist blacklist : String}
    {ignoreCase : Bool} (h : ofTexts whitelist blacklist ignoreCase = .error failure) :
    ∃ selection ∈ [whitelist, blacklist], Rule.RefusedIn selection failure := by
  unfold ofTexts at h
  split at h
  · next hw =>
    obtain rfl := Except.error.inj h
    exact ⟨whitelist, by simp, Rule.refusedIn_of_readAll hw⟩
  · split at h
    · next hb =>
      obtain rfl := Except.error.inj h
      exact ⟨blacklist, by simp, Rule.refusedIn_of_readAll hb⟩
    · cases h

end CatalogScout
