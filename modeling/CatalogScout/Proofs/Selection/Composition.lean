import CatalogScout.Proofs.Selection.Grammar

/-!
Selections put together, and the decisions made from them.

With a comma between them two selections are read as the one and then the other.  So a policy is put
together from its tokens: joined blacklists accept what both accept, and joined whitelists what one
of them accepts, if neither of them is without tokens, for then it would accept everything.  What a
policy decides is determined by the tokens of its two texts.  More tokens on the blacklist never
accept more, and more tokens on a whitelist that has some never accept less.
-/

namespace CatalogScout

open Text

/-! ## Joined selections -/

namespace Rule

variable {ignoreCase : Bool} {r : Rule} {rules : List Rule}

/-- Two selections with a comma between them. -/
def joined (s t : String) : String := s ++ "," ++ t

theorem joined_toList (s t : String) : (joined s t).toList = s.toList ++ ',' :: t.toList := by
  rw [joined, String.toList_append, String.toList_append, List.append_assoc]
  rfl

theorem readAll_joined [CharacterNames] (s t : String) :
    readAll ignoreCase (joined s t).toList = .ok rules ↔
      ∃ front back, readAll ignoreCase s.toList = .ok front ∧
        readAll ignoreCase t.toList = .ok back ∧ rules = front ++ back := by
  rw [readAll, joined_toList, pieces_append, List.mapM_append]
  simp only [Except.bind_eq_ok_iff, Except.pure_eq_ok_iff]
  constructor
  · rintro ⟨front, hfront, back, hback, rfl⟩
    exact ⟨front, back, hfront, hback, rfl⟩
  · rintro ⟨front, back, hfront, hback, rfl⟩
    exact ⟨front, hfront, back, hback, rfl⟩

/-! ### Tokens -/

/-- The token stands between commas of the selection, with blanks around it. -/
def HasToken (selection : String) (token : List Char) : Prop :=
  ∃ part ∈ fields ',' selection.toList, isBlankText part = false ∧ trim part = token

theorem hasToken_iff {s : String} {token : List Char} :
    HasToken s token ↔ token ∈ pieces ',' s.toList :=
  mem_pieces_iff.symm

theorem hasToken_joined {s t : String} {token : List Char} :
    HasToken (joined s t) token ↔ HasToken s token ∨ HasToken t token := by
  rw [hasToken_iff, hasToken_iff, hasToken_iff, joined_toList, pieces_append, List.mem_append]

/-- The first selection has no token that the second has not. -/
def Fewer (s t : String) : Prop := ∀ token, HasToken s token → HasToken t token

/-- The selections have the same tokens, in whatever order and how often. -/
def SameTokens (s t : String) : Prop := ∀ token, HasToken s token ↔ HasToken t token

theorem SameTokens.fewer {s t : String} (h : SameTokens s t) : Fewer s t := fun token => (h token).1

theorem SameTokens.symm {s t : String} (h : SameTokens s t) : SameTokens t s :=
  fun token => (h token).symm

section Rules

variable [CharacterNames]

theorem exists_readAll_iff (s : String) :
    (∃ rules, readAll ignoreCase s.toList = .ok rules) ↔
      ∀ token, HasToken s token → ∃ r, ofToken ignoreCase token = .ok r := by
  simp only [readAll, List.mapM_eq_ok_iff, List.exists_forall₂_iff, hasToken_iff]

theorem mem_rules_iff_hasToken {s : String} (h : readAll ignoreCase s.toList = .ok rules) :
    r ∈ rules ↔ ∃ token, HasToken s token ∧ ofToken ignoreCase token = .ok r := by
  simp only [mem_rules_iff h, hasToken_iff]

theorem rules_subset {s t : String} {more : List Rule} (h : Fewer s t)
    (hs : readAll ignoreCase s.toList = .ok rules) (ht : readAll ignoreCase t.toList = .ok more) :
    rules ⊆ more := by
  intro r hr
  obtain ⟨token, htoken, hread⟩ := (mem_rules_iff_hasToken hs).1 hr
  exact (mem_rules_iff_hasToken ht).2 ⟨token, h token htoken, hread⟩

theorem isEmpty_eq_false_iff {s : String} (h : readAll ignoreCase s.toList = .ok rules) :
    rules.isEmpty = false ↔ ∃ token, HasToken s token := by
  rw [List.isEmpty_eq_false_iff_exists_mem]
  simp only [mem_rules_iff_hasToken h]
  constructor
  · rintro ⟨r, token, htoken, -⟩
    exact ⟨token, htoken⟩
  · rintro ⟨token, htoken⟩
    obtain ⟨r, hread⟩ := (exists_readAll_iff s).1 ⟨rules, h⟩ token htoken
    exact ⟨r, token, htoken, hread⟩

end Rules

end Rule

/-! ## Policies -/

namespace Policy

open Rule

/-- Both decisions of the first policy are made from those of the others. -/
structure Combines (op : Bool → Bool → Bool) (p q r : Policy) : Prop where
  tables : ∀ db table, p.accepts db table = op (q.accepts db table) (r.accepts db table)
  databases : ∀ db, p.acceptsDatabase db = op (q.acceptsDatabase db) (r.acceptsDatabase db)

/-- The second policy accepts what the first accepts. -/
structure Within (p q : Policy) : Prop where
  tables : ∀ db table, p.accepts db table = true → q.accepts db table = true
  databases : ∀ db, p.acceptsDatabase db = true → q.acceptsDatabase db = true

/-- The policies decide alike. -/
structure Agree (p q : Policy) : Prop where
  tables : ∀ db table, p.accepts db table = q.accepts db table
  databases : ∀ db, p.acceptsDatabase db = q.acceptsDatabase db

/-- Both decisions are of one form: some rule of the whitelist says yes, or there is none, and no
rule of the blacklist says yes. -/
def judges (p : Policy) (f g : Rule → Bool) : Bool :=
  (p.included.isEmpty || p.included.any f) && !p.excluded.any g

section Rules

variable {p q r : Policy} {f g : Rule → Bool}

theorem judges_of_excluded (hq : p.included = q.included) (hr : p.included = r.included)
    (h : p.excluded = q.excluded ++ r.excluded) :
    p.judges f g = (q.judges f g && r.judges f g) := by
  rw [judges, judges, judges, ← hq, ← hr, h, List.any_append, Bool.not_or]
  cases p.included.isEmpty || p.included.any f <;> rfl

theorem judges_of_included (hq : q.included.isEmpty = false) (hr : r.included.isEmpty = false)
    (h : p.included = q.included ++ r.included) (hqex : p.excluded = q.excluded)
    (hrex : p.excluded = r.excluded) : p.judges f g = (q.judges f g || r.judges f g) := by
  have hp : p.included.isEmpty = false := by
    rw [List.isEmpty_eq_false_iff] at hq ⊢
    rw [h]
    exact List.append_ne_nil_of_left_ne_nil hq _
  rw [judges, judges, judges, hp, hq, hr, ← hqex, ← hrex, h, List.any_append, Bool.false_or,
    Bool.false_or, Bool.false_or, Bool.and_or_distrib_right]

/-- More rules on a whitelist that has some, and fewer on the blacklist. -/
theorem judges_of_subset (hin : p.included ⊆ q.included)
    (hnone : p.included = [] → q.included = []) (hex : q.excluded ⊆ p.excluded)
    (hp : p.judges f g = true) : q.judges f g = true := by
  simp only [judges, Bool.and_eq_true, Bool.or_eq_true, List.isEmpty_iff, List.any_eq_true,
    Bool.not_eq_true', List.any_eq_false] at hp ⊢
  obtain ⟨hwhite, hblack⟩ := hp
  refine ⟨hwhite.imp hnone fun hsome => ?_, fun r hr => hblack r (hex hr)⟩
  obtain ⟨r, hr, hyes⟩ := hsome
  exact ⟨r, hin hr, hyes⟩

theorem Within.agree (h : Within p q) (h' : Within q p) : Agree p q :=
  ⟨fun db table => Bool.eq_iff_iff.2 ⟨h.tables db table, h'.tables db table⟩,
    fun db => Bool.eq_iff_iff.2 ⟨h.databases db, h'.databases db⟩⟩

end Rules

/-! ### As they are written -/

section Texts

variable [CharacterNames] {w w' b b' : String} {ignoreCase : Bool} {p q : Policy}

theorem exists_ofTexts (hw : ∀ token, HasToken w token → ∃ r, ofToken ignoreCase token = .ok r)
    (hb : ∀ token, HasToken b token → ∃ r, ofToken ignoreCase token = .ok r) :
    ∃ p, ofTexts w b ignoreCase = .ok p := by
  obtain ⟨included, hin⟩ := (exists_readAll_iff w).2 hw
  obtain ⟨excluded, hex⟩ := (exists_readAll_iff b).2 hb
  exact ⟨_, ofTexts_eq_ok hin hex⟩

theorem within_of_fewer (hp : ofTexts w b ignoreCase = .ok p)
    (hq : ofTexts w' b' ignoreCase = .ok q) (hw : Fewer w w')
    (hsome : (∃ token, HasToken w' token) → ∃ token, HasToken w token) (hb : Fewer b' b) :
    Within p q := by
  obtain ⟨hpin, hpex⟩ := readAll_of_ofTexts hp
  obtain ⟨hqin, hqex⟩ := readAll_of_ofTexts hq
  have hnone : p.included = [] → q.included = [] := by
    rw [← isEmpty_eq_false_iff hpin, ← isEmpty_eq_false_iff hqin, List.isEmpty_eq_false_iff,
      List.isEmpty_eq_false_iff] at hsome
    exact not_imp_not.1 hsome
  have hjudges : ∀ f g, p.judges f g = true → q.judges f g = true := fun f g =>
    judges_of_subset (rules_subset hw hpin hqin) hnone (rules_subset hb hqex hpex)
  exact ⟨fun db table => hjudges _ _, fun db => hjudges _ _⟩

theorem agree_of_sameTokens (hp : ofTexts w b ignoreCase = .ok p) (hw : SameTokens w w')
    (hb : SameTokens b b') : ∃ q, ofTexts w' b' ignoreCase = .ok q ∧ Agree p q := by
  obtain ⟨hpin, hpex⟩ := readAll_of_ofTexts hp
  have hwread := (exists_readAll_iff w).1 ⟨_, hpin⟩
  have hbread := (exists_readAll_iff b).1 ⟨_, hpex⟩
  obtain ⟨q, hq⟩ : ∃ q, ofTexts w' b' ignoreCase = .ok q :=
    exists_ofTexts (fun token htoken => hwread token ((hw token).2 htoken))
      fun token htoken => hbread token ((hb token).2 htoken)
  have hsome : (∃ token, HasToken w token) ↔ ∃ token, HasToken w' token := exists_congr hw
  exact ⟨q, hq, (within_of_fewer hp hq hw.fewer hsome.2 hb.symm.fewer).agree
    (within_of_fewer hq hp hw.symm.fewer hsome.1 hb.fewer)⟩

theorem combines_of_joined_blacklists {b₁ b₂ : String} {p₁ p₂ : Policy}
    (h₁ : ofTexts w b₁ ignoreCase = .ok p₁) (h₂ : ofTexts w b₂ ignoreCase = .ok p₂) :
    ∃ p, ofTexts w (joined b₁ b₂) ignoreCase = .ok p ∧ Combines and p p₁ p₂ := by
  obtain ⟨hin₁, hex₁⟩ := readAll_of_ofTexts h₁
  obtain ⟨hin₂, hex₂⟩ := readAll_of_ofTexts h₂
  have hboth := (readAll_joined b₁ b₂).2 ⟨_, _, hex₁, hex₂, rfl⟩
  have hsame : p₁.included = p₂.included := Except.ok.inj (hin₁.symm.trans hin₂)
  exact ⟨_, ofTexts_eq_ok hin₁ hboth, fun db table => judges_of_excluded rfl hsame rfl,
    fun db => judges_of_excluded rfl hsame rfl⟩

theorem combines_of_joined_whitelists {w₁ w₂ : String} {p₁ p₂ : Policy}
    (hsome₁ : ∃ token, HasToken w₁ token) (hsome₂ : ∃ token, HasToken w₂ token)
    (h₁ : ofTexts w₁ b ignoreCase = .ok p₁) (h₂ : ofTexts w₂ b ignoreCase = .ok p₂) :
    ∃ p, ofTexts (joined w₁ w₂) b ignoreCase = .ok p ∧ Combines or p p₁ p₂ := by
  obtain ⟨hin₁, hex₁⟩ := readAll_of_ofTexts h₁
  obtain ⟨hin₂, hex₂⟩ := readAll_of_ofTexts h₂
  rw [← isEmpty_eq_false_iff hin₁] at hsome₁
  rw [← isEmpty_eq_false_iff hin₂] at hsome₂
  have hboth := (readAll_joined w₁ w₂).2 ⟨_, _, hin₁, hin₂, rfl⟩
  have hsame : p₁.excluded = p₂.excluded := Except.ok.inj (hex₁.symm.trans hex₂)
  exact ⟨_, ofTexts_eq_ok hboth hex₁,
    fun db table => judges_of_included hsome₁ hsome₂ rfl rfl hsame,
    fun db => judges_of_included hsome₁ hsome₂ rfl rfl hsame⟩

end Texts

/-- How policies are put together from their tokens.

* Two selections with a comma between them are read if both are, as the rules of the one and then
  those of the other.
* Joined blacklists accept what both accept.
* Joined whitelists that have tokens accept what one of them accepts.
* Selections with the same tokens, in whatever order, how often, and with blank ones or without,
  are read alike and decide alike.
* More tokens on the blacklist accept no more, and more tokens on a whitelist that has some accept
  no less. -/
theorem composed_of_tokens [CharacterNames] (ignoreCase : Bool) :
    (∀ s t rules, readAll ignoreCase (joined s t).toList = .ok rules ↔
      ∃ front back, readAll ignoreCase s.toList = .ok front ∧
        readAll ignoreCase t.toList = .ok back ∧ rules = front ++ back) ∧
    (∀ w b₁ b₂ p₁ p₂, ofTexts w b₁ ignoreCase = .ok p₁ → ofTexts w b₂ ignoreCase = .ok p₂ →
      ∃ p, ofTexts w (joined b₁ b₂) ignoreCase = .ok p ∧ Combines and p p₁ p₂) ∧
    (∀ w₁ w₂ b p₁ p₂, (∃ token, HasToken w₁ token) → (∃ token, HasToken w₂ token) →
      ofTexts w₁ b ignoreCase = .ok p₁ → ofTexts w₂ b ignoreCase = .ok p₂ →
      ∃ p, ofTexts (joined w₁ w₂) b ignoreCase = .ok p ∧ Combines or p p₁ p₂) ∧
    (∀ w w' b b' p, SameTokens w w' → SameTokens b b' → ofTexts w b ignoreCase = .ok p →
      ∃ q, ofTexts w' b' ignoreCase = .ok q ∧ Agree p q) ∧
    ∀ w w' b b' p q, ofTexts w b ignoreCase = .ok p → ofTexts w' b' ignoreCase = .ok q →
      Fewer w w' → ((∃ token, HasToken w' token) → ∃ token, HasToken w token) → Fewer b' b →
      Within p q := by
  refine ⟨fun s t rules => readAll_joined s t, ?_, ?_, ?_, ?_⟩
  · exact fun w b₁ b₂ p₁ p₂ => combines_of_joined_blacklists
  · exact fun w₁ w₂ b p₁ p₂ => combines_of_joined_whitelists
  · exact fun w w' b b' p hw hb hp => agree_of_sameTokens hp hw hb
  · exact fun w w' b b' p q => within_of_fewer

/-! ### A case -/

theorem hasToken_names {token : List Char} :
    (HasToken "a" token ↔ token = ['a']) ∧ (HasToken "b" token ↔ token = ['b']) ∧
      (HasToken "b, a,,b" token ↔ token = ['a'] ∨ token = ['b']) := by
  have ha : pieces ',' "a".toList = [['a']] := rfl
  have hb : pieces ',' "b".toList = [['b']] := rfl
  have hmixed : pieces ',' "b, a,,b".toList = [['b'], ['a'], ['b']] := rfl
  simp only [hasToken_iff, ha, hb, hmixed, List.mem_cons, List.not_mem_nil, or_false, true_and]
  tauto

theorem composed_of_tokens_of_two :
    (∃ p, ofTexts "a" (joined "a.b" "c") true = .ok p ∧ p.accepts "A" "b" = false) ∧
      (∃ p, ofTexts (joined "a" "b") "" true = .ok p ∧ p.accepts "b" "t" = true) ∧
      (∃ q, ofTexts "b, a,,b" "" true = .ok q ∧ q.accepts "b" "t" = true) ∧
      ∃ q, ofTexts (joined "a" "b") "" true = .ok q ∧ q.accepts "a" "t" = true := by
  obtain ⟨-, hblack, hwhite, hsame, hmore⟩ := composed_of_tokens true
  have ha : HasToken "a" ['a'] := hasToken_names.1.2 rfl
  have hb : HasToken "b" ['b'] := hasToken_names.2.1.2 rfl
  obtain ⟨pa, hpa, haccepts⟩ : ∃ p, ofTexts "a" "" true = .ok p ∧ p.accepts "a" "t" = true :=
    Except.exists_of_toOption_map (by decide +kernel)
  obtain ⟨pb, hpb, hbaccepts⟩ : ∃ p, ofTexts "b" "" true = .ok p ∧ p.accepts "b" "t" = true :=
    Except.exists_of_toOption_map (by decide +kernel)
  obtain ⟨p, hp, hcombines⟩ := hwhite "a" "b" "" pa pb ⟨_, ha⟩ ⟨_, hb⟩ hpa hpb
  have hpaccepts : p.accepts "b" "t" = true := by
    rw [hcombines.tables, hbaccepts]
    exact Bool.or_true _
  refine ⟨?_, ⟨p, hp, hpaccepts⟩, ?_, ⟨p, hp, ?_⟩⟩
  · obtain ⟨p₁, hp₁, hrejects⟩ : ∃ p, ofTexts "a" "a.b" true = .ok p ∧ p.accepts "A" "b" = false :=
      Except.exists_of_toOption_map (by decide +kernel)
    obtain ⟨p₂, hp₂, -⟩ : ∃ p, ofTexts "a" "c" true = .ok p ∧ p.accepts "A" "b" = true :=
      Except.exists_of_toOption_map (by decide +kernel)
    obtain ⟨p, hp, hcombines⟩ := hblack "a" "a.b" "c" p₁ p₂ hp₁ hp₂
    refine ⟨p, hp, ?_⟩
    rw [hcombines.tables, hrejects]
    exact Bool.false_and _
  · have hmixed : SameTokens (joined "a" "b") "b, a,,b" := fun token => by
      rw [hasToken_joined, hasToken_names.1, hasToken_names.2.1, hasToken_names.2.2]
    obtain ⟨q, hq, hagree⟩ := hsame _ _ "" "" p hmixed (fun _ => Iff.rfl) hp
    exact ⟨q, hq, (hagree.tables "b" "t").symm.trans hpaccepts⟩
  · have hfewer : Fewer "a" (joined "a" "b") := fun token h => hasToken_joined.2 (.inl h)
    have hwithin := hmore "a" (joined "a" "b") "" "" pa p hpa hp hfewer (fun _ => ⟨_, ha⟩)
      fun _ h => h
    exact hwithin.tables "a" "t" haccepts

end Policy
end CatalogScout
