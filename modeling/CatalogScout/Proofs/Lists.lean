import Mathlib.Algebra.GroupWithZero.Nat
import Mathlib.Data.List.Forall2
import Mathlib.Data.List.Induction

/-!
Lists, and computations that may fail.

What the library proves of its own definitions keeps coming down to a few facts of lists: two of
them related member by member, a list read member by member, which succeeds if every member is read
and else fails as some member does, keys looked up in a list of pairs, and members counted.
-/

namespace Except

variable {ε α β : Type}

theorem bind_eq_ok_iff {x : Except ε α} {f : α → Except ε β} {b : β} :
    x >>= f = .ok b ↔ ∃ a, x = .ok a ∧ f a = .ok b := by
  constructor
  · intro h
    cases x with
    | error e => cases h
    | ok a => exact ⟨a, rfl, h⟩
  · rintro ⟨a, rfl, h⟩
    exact h

theorem pure_eq_ok_iff {a b : α} : (pure a : Except ε α) = .ok b ↔ b = a :=
  ⟨fun h => (Except.ok.inj h).symm, fun h => h ▸ rfl⟩

theorem of_bind_error {x : Except ε α} {f : α → Except ε β} {e : ε} (h : x >>= f = .error e) :
    x = .error e ∨ ∃ a, x = .ok a ∧ f a = .error e := by
  cases x with
  | error => exact Or.inl (congrArg Except.error (Except.error.inj h))
  | ok a => exact Or.inr ⟨a, rfl, h⟩

theorem exists_of_toOption_map {x : Except ε α} {f : α → β} {b : β}
    (h : x.toOption.map f = some b) : ∃ a, x = .ok a ∧ f a = b := by
  cases x with
  | error e => cases h
  | ok a => exact ⟨a, rfl, Option.some.inj h⟩

end Except

namespace List

variable {α β γ ε : Type}

/-! ## Two parts -/

/-- A member of a list in two parts stands in the first part or in the second. -/
theorem append_eq_append_cons {a b u w : List α} {c : α} (h : a ++ b = u ++ c :: w) :
    (∃ v, a = u ++ c :: v ∧ w = v ++ b) ∨ ∃ v, u = a ++ v ∧ b = v ++ c :: w := by
  rcases append_eq_append_iff.1 h with ⟨v, hu, hb⟩ | ⟨v, ha, hw⟩
  · exact Or.inr ⟨v, hu, hb⟩
  · cases v with
    | nil =>
      rw [append_nil] at ha
      exact Or.inr ⟨[], by rw [ha, append_nil], hw.symm⟩
    | cons d v =>
      rw [cons_append, cons.injEq] at hw
      obtain ⟨rfl, rfl⟩ := hw
      exact Or.inl ⟨v, ha, rfl⟩

theorem not_mem_intercalate {c sep : α} (hsep : c ≠ sep) {parts : List (List α)}
    (h : ∀ p ∈ parts, c ∉ p) : c ∉ [sep].intercalate parts := by
  induction parts with
  | nil => exact not_mem_nil
  | cons p parts ih =>
    by_cases hlast : parts = []
    · subst hlast
      rw [intercalate_singleton]
      exact h p mem_cons_self
    · rw [intercalate_cons_of_ne_nil hlast]
      simp only [mem_append, mem_singleton, not_or]
      exact ⟨⟨h p mem_cons_self, hsep⟩, ih fun q hq => h q (mem_cons_of_mem p hq)⟩

/-! ## Member by member -/

theorem exists_forall₂_iff {R : α → β → Prop} {l : List α} :
    (∃ bs, Forall₂ R l bs) ↔ ∀ a ∈ l, ∃ b, R a b := by
  induction l with
  | nil => simp
  | cons a l ih =>
    rw [forall_mem_cons, ← ih]
    simp only [forall₂_cons_left_iff]
    constructor
    · rintro ⟨-, b, bs, hb, hbs, rfl⟩
      exact ⟨⟨b, hb⟩, bs, hbs⟩
    · rintro ⟨⟨b, hb⟩, bs, hbs⟩
      exact ⟨_, b, bs, hb, hbs, rfl⟩

theorem forall₂_congr_left {R S : α → β → Prop} {l : List α} {bs : List β}
    (h : ∀ a ∈ l, ∀ b, R a b ↔ S a b) : Forall₂ R l bs ↔ Forall₂ S l bs := by
  induction l generalizing bs with
  | nil => rw [forall₂_nil_left_iff, forall₂_nil_left_iff]
  | cons a l ih =>
    rw [forall₂_cons_left_iff, forall₂_cons_left_iff]
    simp only [h a mem_cons_self, ih fun a' ha' => h a' (mem_cons_of_mem a ha')]

theorem Forall₂.forall_right {R : α → β → Prop} {p : β → Prop} (hp : ∀ a b, R a b → p b)
    {l : List α} {bs : List β} (h : Forall₂ R l bs) : ∀ b ∈ bs, p b := by
  induction h with
  | nil => exact forall_mem_nil _
  | cons hab _ ih => exact forall_mem_cons.2 ⟨hp _ _ hab, ih⟩

section Reading

variable {f : α → Except ε β} {l : List α} {bs : List β}

theorem mapM_eq_ok_iff : l.mapM f = .ok bs ↔ Forall₂ (fun a b => f a = .ok b) l bs := by
  induction l generalizing bs with
  | nil => rw [mapM_nil, forall₂_nil_left_iff, Except.pure_eq_ok_iff]
  | cons a l ih =>
    rw [mapM_cons, forall₂_cons_left_iff]
    simp only [Except.bind_eq_ok_iff, Except.pure_eq_ok_iff, ih, exists_and_left]

theorem mem_iff_of_forall₂ (h : Forall₂ (fun a b => f a = .ok b) l bs) {b : β} :
    b ∈ bs ↔ ∃ a ∈ l, f a = .ok b := by
  induction h with
  | nil => simp
  | @cons a b' l bs hb' _ ih =>
    rw [mem_cons, ih, exists_mem_cons_iff, hb', Except.ok.injEq, eq_comm]

/-- A list of written members is read as what they were written from. -/
theorem mapM_of_forall₂ {g : γ → β} {R : γ → α → Prop} (hread : ∀ c a, R c a → f a = .ok (g c))
    {cs : List γ} (h : Forall₂ R cs l) : l.mapM f = .ok (cs.map g) := by
  rw [mapM_eq_ok_iff, forall₂_map_right_iff]
  exact h.flip.imp fun a c => hread c a

theorem exists_of_mapM_error {e : ε} (h : l.mapM f = .error e) : ∃ a ∈ l, f a = .error e := by
  induction l with
  | nil => cases h
  | cons a l ih =>
    rw [mapM_cons] at h
    rcases Except.of_bind_error h with ha | ⟨b, -, h⟩
    · exact ⟨a, mem_cons_self, ha⟩
    · rcases Except.of_bind_error h with hl | ⟨bs, -, h⟩
      · obtain ⟨a', hmem, ha'⟩ := ih hl
        exact ⟨a', mem_cons_of_mem a hmem, ha'⟩
      · cases h

end Reading

/-! ## Words and keys -/

theorem any_toList_iff {words : List String} {word : List Char} :
    (words.any (·.toList == word)) = true ↔ String.ofList word ∈ words := by
  rw [any_eq_true]
  constructor
  · rintro ⟨s, hs, heq⟩
    obtain rfl := beq_iff_eq.1 heq
    rwa [String.ofList_toList]
  · intro hword
    exact ⟨_, hword, by simp⟩

section Keys

variable [BEq α] [LawfulBEq α] {l : List (α × β)} {a : α}

theorem mem_of_lookup {b : β} (h : l.lookup a = some b) : (a, b) ∈ l := by
  obtain ⟨before, behind, rfl, -⟩ := lookup_eq_some_iff.1 h
  exact mem_append_right before mem_cons_self

theorem lookup_concat_self (b : β) (hnew : l.lookup a = none) :
    (l ++ [(a, b)]).lookup a = some b := by
  rw [lookup_append, hnew, Option.none_or, lookup_cons_self]

theorem nodup_keys_concat {b : β} (hnew : l.lookup a = none) (h : (l.map Prod.fst).Nodup) :
    ((l ++ [(a, b)]).map Prod.fst).Nodup := by
  rw [map_append, map_singleton, nodup_append]
  refine ⟨h, by simp, fun key hkey key' hkey' => ?_⟩
  obtain ⟨e, he, rfl⟩ := mem_map.1 hkey
  obtain rfl := mem_singleton.1 hkey'
  exact Ne.symm (bne_iff_ne.1 (lookup_eq_none_iff.1 hnew e he))

end Keys

/-! ## Places -/

/-- The last place where something is found. -/
theorem findSome?_range_reverse_eq_some_iff {m : Nat} {f : Nat → Option α} {a : α} :
    (range m).reverse.findSome? f = some a ↔
      ∃ j < m, f j = some a ∧ ∀ i, j < i → i < m → f i = none := by
  induction m with
  | zero => simp
  | succ m ih =>
    rw [range_succ, reverse_append, reverse_singleton, singleton_append,
      findSome?_cons]
    cases hm : f m with
    | some b =>
      constructor
      · intro hb
        exact ⟨m, Nat.lt_succ_self m, hm.trans hb, fun i hi hi' => absurd hi (by omega)⟩
      · rintro ⟨j, hj, hja, hlast⟩
        rcases Nat.lt_or_ge j m with hlt | hge
        · have hnone := hlast m hlt (Nat.lt_succ_self m)
          rw [hm] at hnone
          cases hnone
        · obtain rfl : j = m := by omega
          exact hm.symm.trans hja
    | none =>
      show (range m).reverse.findSome? f = some a ↔ _
      rw [ih]
      constructor
      · rintro ⟨j, hj, hja, hlast⟩
        refine ⟨j, by omega, hja, fun i hi hi' => ?_⟩
        by_cases him : i = m
        · rw [him, hm]
        · exact hlast i hi (by omega)
      · rintro ⟨j, hj, hja, hlast⟩
        have hne : j ≠ m := by
          rintro rfl
          rw [hm] at hja
          cases hja
        exact ⟨j, by omega, hja, fun i hi hi' => hlast i hi (by omega)⟩

/-! ## Counts -/

theorem countP_or_le (p q : α → Bool) (l : List α) :
    (l.countP fun x => p x || q x) ≤ l.countP p + l.countP q := by
  induction l with
  | nil => exact Nat.le_refl 0
  | cons x l ih =>
    simp only [countP_cons]
    cases p x <;> cases q x <;> simp <;> omega

/-- Marks at places of a list, so many at most at each: at the members with a property there are no
more than these members have together. -/
theorem countP_any_le_sum {l : List α} {marks : List (Nat × β)} {bound : α → Nat}
    (h : ∀ place x, l[place]? = some x →
      (marks.countP fun m => m.1 == place) ≤ bound x) (q : α → Bool) :
    (marks.countP fun m => (l[m.1]?).any q) ≤ ((l.filter q).map bound).sum := by
  induction l using reverseRecOn with
  | nil => simp
  | append_singleton l x ih =>
    have hlast : (marks.countP fun m => m.1 == l.length) ≤ bound x :=
      h _ x (by simp)
    have hearlier := ih fun place y hy => h place y (by
      rw [getElem?_append_left (getElem?_eq_some_iff.1 hy).1, hy])
    have hsplit : ∀ m : Nat × β, ((l ++ [x])[m.1]?).any q
        = ((l[m.1]?).any q || (m.1 == l.length && q x)) := by
      intro m
      rcases Nat.lt_trichotomy m.1 l.length with hlt | heq | hgt
      · rw [getElem?_append_left hlt]
        simp [Nat.ne_of_lt hlt]
      · simp [heq]
      · rw [getElem?_eq_none (by simp; omega), getElem?_eq_none (by omega)]
        simp [Nat.ne_of_gt hgt]
    simp only [hsplit]
    refine Nat.le_trans (countP_or_le _ _ _) ?_
    cases hx : q x with
    | true => simpa [filter_append, hx] using Nat.add_le_add hearlier hlast
    | false => simpa [filter_append, hx] using hearlier

end List
