import CatalogScout.Markup
import CatalogScout.Proofs.Lists

/-!
Tags of markup, and texts that no tag touches.

A bracket opens a tag if an even number of backslashes stands in front of it and the text behind it
goes on like a tag.  A text that is shown between two pieces of markup is untouched if every tag of
the whole ends in the first piece or begins in the second.  Where the first piece leaves no bracket
open and the second closes none, this only depends on the brackets of the text itself: each one that
goes on like a tag has to stand behind an odd number of backslashes.  Escaping sees to that, and it
leaves alone the texts that have no such bracket and do not end in one backslash alone.  Where a
result is about what is escaped, it is about every way to escape that does both (`LawfulEscaping`).
-/

namespace CatalogScout
namespace Markup

def isBracket (c : Char) : Bool := c = '[' || c = ']'

/-- The backslashes that a text ends in. -/
def backslashes (s : List Char) : Nat := (s.reverse.takeWhile (· == '\\')).length

/-- What stands between the brackets of a tag. -/
def isTag : List Char → Bool
  | [] => false
  | c :: r => isTagStart c && !r.any isBracket

/-- Some bracket goes on like a tag. -/
def hasTag : List Char → Bool
  | [] => false
  | c :: r => (c == '[' && continuesTag r) || hasTag r

/-- A tag is read in markup, behind `before` and in front of `after`. -/
structure ReadsTag (markup before tag after : List Char) : Prop where
  parts : markup = before ++ '[' :: (tag ++ ']' :: after)
  tag : isTag tag = true
  even : backslashes before % 2 = 0

/-- Every tag of the whole stands in front of what is shown or behind it. -/
def Untouched (front shown back : List Char) : Prop :=
  ∀ before tag after, ReadsTag (front ++ shown ++ back) before tag after →
    before ++ '[' :: (tag ++ [']']) <+: front ∨ front ++ shown <+: before

/-- Each bracket that goes on like a tag stands behind an odd number of backslashes. -/
def Disarmed (s : List Char) : Prop :=
  ∀ u v, s = u ++ '[' :: v → continuesTag v = true → backslashes u % 2 = 1

/-- No bracket goes on like a tag, and there is no backslash alone at the end. -/
def Plain (s : List Char) : Prop := hasTag s = false ∧ endsInBackslash s = false

instance (s : List Char) : Decidable (Plain s) := inferInstanceAs (Decidable (_ ∧ _))

/-- Markup that leaves no bracket open and ends in no backslash, and markup that does not begin by
closing a bracket. -/
structure Surrounds (front back : List Char) : Prop where
  front_closed : front.reverse.find? isBracket ≠ some '['
  front_plain : backslashes front = 0
  back_closed : back.find? isBracket ≠ some ']'

instance (front back : List Char) : Decidable (Surrounds front back) :=
  decidable_of_iff (front.reverse.find? isBracket ≠ some '[' ∧ backslashes front = 0 ∧
      back.find? isBracket ≠ some ']')
    ⟨fun ⟨hclosed, hplain, hback⟩ => ⟨hclosed, hplain, hback⟩,
      fun ⟨hclosed, hplain, hback⟩ => ⟨hclosed, hplain, hback⟩⟩

variable {s u v front shown back : List Char} {c : Char}

/-! ## Backslashes -/

theorem backslashes_append (h : backslashes u = 0) (v : List Char) :
    backslashes (u ++ v) = backslashes v := by
  have hnone : u.reverse.takeWhile (· == '\\') = [] := List.length_eq_zero_iff.1 h
  rw [backslashes, List.reverse_append, List.takeWhile_append, hnone, List.append_nil]
  split
  · next hall => exact hall.symm
  · rfl

theorem backslashes_concat (hc : c ≠ '\\') (u : List Char) : backslashes (u ++ [c]) = 0 := by
  have hstop : (c == '\\') = false := beq_false_of_ne hc
  rw [backslashes, List.reverse_append, List.reverse_singleton, List.singleton_append,
    List.takeWhile_cons, hstop]
  rfl

theorem backslashes_append_cons (hc : c ≠ '\\') (u v : List Char) :
    backslashes (u ++ c :: v) = backslashes v := by
  rw [List.append_cons, backslashes_append (backslashes_concat hc u)]

theorem backslashes_replicate (n : Nat) : backslashes (List.replicate n '\\') = n := by
  simp [backslashes]

/-! ## Tags -/

theorem continuesTag_cons (c : Char) (s : List Char) :
    continuesTag (c :: s) = (isTagStart c && s.find? isBracket == some ']') :=
  rfl

theorem not_bracket_of_isTagStart (h : isTagStart c = true) : isBracket c = false := by
  by_contra hbracket
  simp only [isBracket, Bool.not_eq_false, Bool.or_eq_true, decide_eq_true_eq] at hbracket
  rcases hbracket with rfl | rfl
  · exact absurd h (by decide)
  · exact absurd h (by decide)

theorem not_mem_of_isTag (h : isTag s = true) : ']' ∉ s := by
  cases s with
  | nil => exact List.not_mem_nil
  | cons c r =>
    simp only [isTag, Bool.and_eq_true, Bool.not_eq_true', List.any_eq_false] at h
    obtain ⟨hstart, hrest⟩ := h
    intro hmem
    rcases List.mem_cons.1 hmem with rfl | hmem
    · exact absurd hstart (by decide)
    · exact hrest _ hmem (by decide)

/-- The text behind a bracket goes on like a tag if a tag and its closing bracket come first. -/
theorem continuesTag_iff :
    continuesTag s = true ↔ ∃ tag after, s = tag ++ ']' :: after ∧ isTag tag = true := by
  constructor
  · intro h
    cases s with
    | nil => cases h
    | cons c r =>
      rw [continuesTag_cons, Bool.and_eq_true, beq_iff_eq, List.find?_eq_some_iff_append] at h
      obtain ⟨hstart, -, tag, after, rfl, hnone⟩ := h
      refine ⟨c :: tag, after, rfl, ?_⟩
      simp only [isTag, hstart, Bool.true_and, Bool.not_eq_true', List.any_eq_false]
      intro d hd
      simpa using hnone d hd
  · rintro ⟨tag, after, rfl, htag⟩
    cases tag with
    | nil => cases htag
    | cons c r =>
      simp only [isTag, Bool.and_eq_true, Bool.not_eq_true', List.any_eq_false] at htag
      obtain ⟨hstart, hnone⟩ := htag
      rw [List.cons_append, continuesTag_cons, hstart, Bool.true_and, beq_iff_eq,
        List.find?_eq_some_iff_append]
      refine ⟨rfl, r, after, rfl, ?_⟩
      intro d hd
      simpa using hnone d hd

theorem continuesTag_append_iff (h : back.find? isBracket ≠ some ']') :
    continuesTag (s ++ back) = true ↔ continuesTag s = true := by
  cases s with
  | nil =>
    refine iff_of_false ?_ (by decide)
    intro hback
    rw [List.nil_append] at hback
    cases back with
    | nil => cases hback
    | cons c r =>
      rw [continuesTag_cons, Bool.and_eq_true, beq_iff_eq] at hback
      rw [List.find?_cons_of_neg (by simp [not_bracket_of_isTagStart hback.1])] at h
      exact h hback.2
  | cons c r =>
    rw [List.cons_append, continuesTag_cons, continuesTag_cons, List.find?_append]
    cases r.find? isBracket with
    | some d => rfl
    | none =>
      have hback : (back.find? isBracket == some ']') = false := beq_false_of_ne h
      rw [Option.none_or, hback]
      rfl

/-- A bracket that closes stands behind each opening bracket of closed markup. -/
theorem Surrounds.mem_of_front (h : Surrounds front back) (hfront : front = u ++ '[' :: v) :
    ']' ∈ v := by
  have hclosed := h.front_closed
  rw [hfront, List.reverse_append, List.reverse_cons, List.append_assoc, List.find?_append]
    at hclosed
  cases hfind : v.reverse.find? isBracket with
  | none =>
    rw [hfind] at hclosed
    exact absurd rfl hclosed
  | some d =>
    rw [hfind, Option.some_or] at hclosed
    have hbracket : isBracket d = true := List.find?_some hfind
    simp only [isBracket, Bool.or_eq_true, decide_eq_true_eq] at hbracket
    rcases hbracket with rfl | rfl
    · exact absurd rfl hclosed
    · exact List.mem_reverse.1 (List.mem_of_find?_eq_some hfind)

/-- A tag that begins in closed markup ends there. -/
theorem Surrounds.ends_in_front (h : Surrounds front back) (hfront : front = u ++ '[' :: v)
    {tag after rest : List Char} (htag : isTag tag = true)
    (hrest : tag ++ ']' :: after = v ++ rest) : u ++ '[' :: (tag ++ [']']) <+: front := by
  rcases List.append_eq_append_cons hrest.symm with ⟨w, rfl, -⟩ | ⟨w, rfl, -⟩
  · rw [hfront]
    exact ⟨w, by simp⟩
  · exact absurd (List.mem_append_left w (h.mem_of_front hfront)) (not_mem_of_isTag htag)

/-- A bracket that goes on like a tag behind an even number of backslashes is a tag of the whole,
and it stands neither in front of what is shown nor behind it. -/
theorem Surrounds.disarmed (h : Surrounds front back) (huntouched : Untouched front shown back) :
    Disarmed shown := by
  intro u v hshown hcontinues
  obtain ⟨tag, after, rfl, htag⟩ := continuesTag_iff.1 hcontinues
  by_contra hodd
  have heven : backslashes (front ++ u) % 2 = 0 := by
    rw [backslashes_append h.front_plain]
    omega
  have hread : ReadsTag (front ++ shown ++ back) (front ++ u) tag (after ++ back) :=
    ⟨by simp [hshown], htag, heven⟩
  have hlength := congrArg List.length hshown
  rw [List.length_append, List.length_cons] at hlength
  rcases huntouched _ _ _ hread with hfront | hbehind
  · have hle := hfront.length_le
    simp only [List.length_append, List.length_cons] at hle
    omega
  · have hle := hbehind.length_le
    simp only [List.length_append] at hle
    omega

/-- A tag of the whole begins in the first piece, in what is shown or in the last piece.  In the
first piece it also ends, and what is shown would have to arm its bracket. -/
theorem Surrounds.untouched (h : Surrounds front back) (hdisarmed : Disarmed shown) :
    Untouched front shown back := by
  intro before tag after hread
  have hbehind : continuesTag (tag ++ ']' :: after) = true :=
    continuesTag_iff.2 ⟨tag, after, rfl, hread.tag⟩
  have hparts := hread.parts
  rw [List.append_assoc] at hparts
  rcases List.append_eq_append_cons hparts with ⟨v, hfront, hrest⟩ | ⟨u, rfl, hrest⟩
  · exact Or.inl (h.ends_in_front hfront hread.tag hrest)
  · right
    rcases List.append_eq_append_cons hrest with ⟨v, hshown, hrest⟩ | ⟨w, rfl, -⟩
    · -- The last piece closes no bracket, so the tag ends where it begins.
      rw [hrest, continuesTag_append_iff h.back_closed] at hbehind
      have hodd := hdisarmed u v hshown hbehind
      have heven := hread.even
      rw [backslashes_append h.front_plain] at heven
      omega
    · rw [← List.append_assoc]
      exact List.prefix_append _ _

theorem Surrounds.untouched_iff (h : Surrounds front back) :
    Untouched front shown back ↔ Disarmed shown :=
  ⟨h.disarmed, h.untouched⟩

/-! ## Escaping -/

theorem escapeBehind_backslash (run : Nat) (s : List Char) :
    escapeBehind run ('\\' :: s) = escapeBehind (run + 1) s := by
  rw [escapeBehind, if_pos rfl]

theorem escapeBehind_tag {s : List Char} (h : continuesTag s = true) (run : Nat) :
    escapeBehind run ('[' :: s)
      = List.replicate (2 * run + 1) '\\' ++ '[' :: escapeBehind 0 s := by
  rw [escapeBehind, if_neg (by decide), if_pos (by simp [h])]

theorem escapeBehind_plain (hc : c ≠ '\\') (h : c = '[' → continuesTag s = false) (run : Nat) :
    escapeBehind run (c :: s) = List.replicate run '\\' ++ c :: escapeBehind 0 s := by
  rw [escapeBehind, if_neg hc, if_neg (by simpa using h)]

/-- Letters are one of three: a backslash, a bracket that goes on like a tag, or another. -/
theorem escaping_cases (c : Char) (s : List Char) :
    c = '\\' ∨ (c = '[' ∧ continuesTag s = true) ∨
      (c ≠ '\\' ∧ (c = '[' → continuesTag s = false)) := by
  by_cases hc : c = '\\'
  · exact Or.inl hc
  · by_cases htag : c = '[' ∧ continuesTag s = true
    · exact Or.inr (Or.inl htag)
    · exact Or.inr (Or.inr ⟨hc, by simpa using htag⟩)

theorem find?_replicate_append (n : Nat) (s : List Char) :
    (List.replicate n '\\' ++ s).find? isBracket = s.find? isBracket := by
  rw [List.find?_append, List.find?_replicate]
  simp [isBracket]

/-- Escaping adds no brackets and takes none away. -/
theorem find?_escapeBehind (run : Nat) (s : List Char) :
    (escapeBehind run s).find? isBracket = s.find? isBracket := by
  induction s generalizing run with
  | nil =>
    rw [escapeBehind, ← List.append_nil (List.replicate run '\\'), find?_replicate_append]
  | cons c s ih =>
    rcases escaping_cases c s with rfl | ⟨rfl, htag⟩ | ⟨hc, hno⟩
    · rw [escapeBehind_backslash, ih]
      rfl
    · rw [escapeBehind_tag htag, find?_replicate_append]
      rfl
    · rw [escapeBehind_plain hc hno, find?_replicate_append, List.find?_cons, List.find?_cons, ih]

/-- Nothing that begins with a backslash goes on like a tag. -/
theorem continuesTag_escapeBehind_succ (run : Nat) (s : List Char) :
    continuesTag (escapeBehind (run + 1) s) = false := by
  induction s generalizing run with
  | nil => rfl
  | cons c s ih =>
    rcases escaping_cases c s with rfl | ⟨rfl, htag⟩ | ⟨hc, hno⟩
    · rw [escapeBehind_backslash, ih]
    · rw [escapeBehind_tag htag]
      rfl
    · rw [escapeBehind_plain hc hno]
      rfl

/-- What goes on like a tag when it has been escaped went on like one before. -/
theorem continuesTag_of_escapeBehind (h : continuesTag (escapeBehind 0 s) = true) :
    continuesTag s = true := by
  cases s with
  | nil => exact h
  | cons c s =>
    rcases escaping_cases c s with rfl | ⟨rfl, htag⟩ | ⟨hc, hno⟩
    · rw [escapeBehind_backslash, continuesTag_escapeBehind_succ] at h
      cases h
    · rw [escapeBehind_tag htag] at h
      cases h
    · rw [escapeBehind_plain hc hno] at h
      change continuesTag (c :: escapeBehind 0 s) = true at h
      rw [continuesTag_cons, find?_escapeBehind] at h
      exact h

theorem disarmed_replicate_append {n : Nat} (hs : Disarmed s) (hc : c ≠ '\\')
    (hodd : c = '[' → continuesTag s = true → n % 2 = 1) :
    Disarmed (List.replicate n '\\' ++ c :: s) := by
  intro u v hsplit hcontinues
  rcases List.append_eq_append_cons hsplit with ⟨w, hrun, -⟩ | ⟨w, rfl, hrest⟩
  · have hmem : '[' ∈ List.replicate n '\\' :=
      hrun ▸ List.mem_append_right u List.mem_cons_self
    exact absurd (List.eq_of_mem_replicate hmem) (by decide)
  · cases w with
    | nil =>
      obtain ⟨rfl, rfl⟩ := List.cons.inj hrest
      rw [List.append_nil, backslashes_replicate]
      exact hodd rfl hcontinues
    | cons d w =>
      obtain ⟨rfl, hs'⟩ := List.cons.inj hrest
      rw [backslashes_append_cons hc]
      exact hs w v hs' hcontinues

/-- The induction is on the text that is still to be escaped, behind any run of backslashes. -/
theorem disarmed_escapeBehind (run : Nat) (s : List Char) : Disarmed (escapeBehind run s) := by
  induction s generalizing run with
  | nil =>
    intro u v hsplit
    have hmem : '[' ∈ escapeBehind run [] := hsplit ▸ List.mem_append_right u List.mem_cons_self
    exact absurd (List.eq_of_mem_replicate hmem) (by decide)
  | cons c s ih =>
    rcases escaping_cases c s with rfl | ⟨rfl, htag⟩ | ⟨hc, hno⟩
    · rw [escapeBehind_backslash]
      exact ih (run + 1)
    · rw [escapeBehind_tag htag]
      exact disarmed_replicate_append (ih 0) (by decide) fun _ _ => by omega
    · rw [escapeBehind_plain hc hno]
      refine disarmed_replicate_append (ih 0) hc fun hbracket hcontinues => ?_
      exact absurd (continuesTag_of_escapeBehind hcontinues) (by simp [hno hbracket])

theorem Disarmed.concat_backslash (h : Disarmed s) : Disarmed (s ++ ['\\']) := by
  intro u v hsplit hcontinues
  rcases List.append_eq_append_cons hsplit with ⟨w, hs, rfl⟩ | ⟨w, -, hrest⟩
  · exact h u w hs ((continuesTag_append_iff (by decide)).1 hcontinues)
  · have hmem : '[' ∈ ['\\'] := hrest ▸ List.mem_append_right w List.mem_cons_self
    exact absurd (List.mem_singleton.1 hmem) (by decide)

theorem disarmed_escape (s : List Char) : Disarmed (escape s) := by
  rw [escape]
  split
  · exact (disarmed_escapeBehind 0 s).concat_backslash
  · exact disarmed_escapeBehind 0 s

/-! ## Texts that escaping leaves alone -/

theorem length_le_escapeBehind (run : Nat) (s : List Char) :
    run + s.length ≤ (escapeBehind run s).length := by
  induction s generalizing run with
  | nil => simp [escapeBehind]
  | cons c s ih =>
    rcases escaping_cases c s with rfl | ⟨rfl, htag⟩ | ⟨hc, hno⟩
    · have := ih (run + 1)
      rw [escapeBehind_backslash, List.length_cons]
      omega
    · have := ih 0
      rw [escapeBehind_tag htag]
      simp only [List.length_append, List.length_replicate, List.length_cons]
      omega
    · have := ih 0
      rw [escapeBehind_plain hc hno]
      simp only [List.length_append, List.length_replicate, List.length_cons]
      omega

theorem escapeBehind_eq_iff (run : Nat) (s : List Char) :
    escapeBehind run s = List.replicate run '\\' ++ s ↔ hasTag s = false := by
  induction s generalizing run with
  | nil => simp [escapeBehind, hasTag]
  | cons c s ih =>
    rcases escaping_cases c s with rfl | ⟨rfl, htag⟩ | ⟨hc, hno⟩
    · rw [escapeBehind_backslash, List.append_cons, ← List.replicate_succ', ih]
      rfl
    · rw [escapeBehind_tag htag]
      refine iff_of_false ?_ (by simp [hasTag, htag])
      intro hsame
      have := congrArg List.length hsame
      have := length_le_escapeBehind 0 s
      simp only [List.length_append, List.length_replicate, List.length_cons] at *
      omega
    · have hhead : (c == '[' && continuesTag s) = false := by simpa using hno
      rw [escapeBehind_plain hc hno, List.append_cancel_left_eq, List.cons.injEq, hasTag, hhead,
        Bool.false_or, ← ih 0]
      exact and_iff_right rfl

theorem hasTag_of_not_mem (h : '[' ∉ s) : hasTag s = false := by
  induction s with
  | nil => rfl
  | cons c s ih =>
    obtain ⟨hc, hs⟩ := not_or.1 (mt List.mem_cons.2 h)
    rw [hasTag, ih hs, beq_false_of_ne (Ne.symm hc)]
    rfl

theorem endsInBackslash_of_not_mem (h : '\\' ∉ s) : endsInBackslash s = false := by
  rw [← List.mem_reverse] at h
  unfold endsInBackslash
  split
  · rfl
  · next heq => exact absurd (heq ▸ List.mem_cons_self) h
  · rfl

theorem plain_toString (n : Nat) : Plain (toString n).toList := by
  have hdigit : ∀ c ∈ (toString n).toList, c.isDigit = true := by
    intro c hc
    change c ∈ (String.ofList (Nat.toDigits 10 n)).toList at hc
    rw [String.toList_ofList] at hc
    exact Nat.isDigit_of_mem_toDigits (by decide) (by decide) hc
  constructor
  · exact hasTag_of_not_mem fun hmem => absurd (hdigit _ hmem) (by decide)
  · exact endsInBackslash_of_not_mem fun hmem => absurd (hdigit _ hmem) (by decide)

theorem escape_eq_self_iff (s : List Char) : escape s = s ↔ Plain s := by
  have hkept : escapeBehind 0 s = s ↔ hasTag s = false := escapeBehind_eq_iff 0 s
  rw [escape]
  constructor
  · intro hsame
    split at hsame
    · have := congrArg List.length hsame
      have := length_le_escapeBehind 0 s
      rw [List.length_append] at *
      simp only [List.length_cons, List.length_nil] at *
      omega
    · next hend =>
      rw [hsame] at hend
      exact ⟨hkept.1 hsame, by simpa using hend⟩
  · rintro ⟨htag, hend⟩
    rw [hkept.2 htag, if_neg (by simp [hend])]

/-! ## Ways to escape -/

/-- No bracket of an escaped text opens a tag, and the plain texts are those that stay as they
are. -/
class LawfulEscaping [Escaping] : Prop where
  disarmed : ∀ s, Disarmed (Escaping.escape s)
  eq_self_iff : ∀ s, Escaping.escape s = s ↔ Plain s

instance LawfulEscaping.standard : LawfulEscaping := ⟨disarmed_escape, escape_eq_self_iff⟩

section Lawful

variable [Escaping] [LawfulEscaping]

theorem disarmed_escaped (text : String) : Disarmed (escaped text).toList := by
  rw [escaped, String.toList_ofList]
  exact LawfulEscaping.disarmed _

theorem escaped_eq_self_iff (text : String) : escaped text = text ↔ Plain text.toList := by
  rw [← LawfulEscaping.eq_self_iff, escaped, ← String.toList_inj, String.toList_ofList]

end Lawful

end Markup
end CatalogScout
