import CatalogScout.Proofs.Pattern.Reading

/-!
Matching what a starred text is read as.

Such a pattern captures nothing, so whether it matches depends only on the text in front of the
spot.  The greedy repetition of a wild character tries every row of them, the longest first, and
therefore succeeds exactly if what follows succeeds behind some row.
-/

namespace CatalogScout
namespace Pattern

open Reader

/-! ## Rows and stars -/

/-- The text is the pattern with each star replaced by a row of wild characters, and every other
character by one that is the same. -/
inductive StarMatch (wild : Char → Prop) (same : Char → Char → Prop) :
    List Char → List Char → Prop where
  | nil : StarMatch wild same [] []
  | star {g text : List Char} (row : List Char) :
      (∀ c ∈ row, wild c) → StarMatch wild same g text →
      StarMatch wild same ('*' :: g) (row ++ text)
  | char {c d : Char} {g text : List Char} :
      c ≠ '*' → same c d → StarMatch wild same g text →
      StarMatch wild same (c :: g) (d :: text)

namespace StarMatch

variable {wild : Char → Prop} {same : Char → Char → Prop}

theorem nil_iff {text : List Char} : StarMatch wild same [] text ↔ text = [] := by
  constructor
  · intro h
    cases h
    rfl
  · rintro rfl
    exact .nil

theorem star_iff {g text : List Char} :
    StarMatch wild same ('*' :: g) text ↔
      ∃ row rest, text = row ++ rest ∧ (∀ c ∈ row, wild c) ∧ StarMatch wild same g rest := by
  constructor
  · intro h
    cases h with
    | star row hrow hrest => exact ⟨row, _, rfl, hrow, hrest⟩
    | char hc _ _ => exact absurd rfl hc
  · rintro ⟨row, rest, rfl, hrow, hrest⟩
    exact .star row hrow hrest

theorem char_iff {c : Char} {g text : List Char} (hc : c ≠ '*') :
    StarMatch wild same (c :: g) text ↔
      ∃ d rest, text = d :: rest ∧ same c d ∧ StarMatch wild same g rest := by
  constructor
  · intro h
    cases h with
    | star _ _ _ => exact absurd rfl hc
    | char _ hsame hrest => exact ⟨_, _, rfl, hsame, hrest⟩
  · rintro ⟨d, rest, rfl, hsame, hrest⟩
    exact .char hc hsame hrest

/-- Only what is said of the characters of the two texts counts. -/
theorem congr {wild' : Char → Prop} {same' : Char → Char → Prop} {g text : List Char}
    (hwild : ∀ d ∈ text, wild d → wild' d)
    (hsame : ∀ c ∈ g, ∀ d ∈ text, same c d → same' c d) (h : StarMatch wild same g text) :
    StarMatch wild' same' g text := by
  induction h with
  | nil => exact .nil
  | star row hrow _ ih =>
    refine .star row (fun c hc => hwild c (List.mem_append_left _ hc) (hrow c hc)) (ih ?_ ?_)
    · exact fun d hd => hwild d (List.mem_append_right _ hd)
    · exact fun c hc d hd => hsame c (List.mem_cons_of_mem _ hc) d (List.mem_append_right _ hd)
  | char hc hcd _ ih =>
    refine .char hc (hsame _ List.mem_cons_self _ List.mem_cons_self hcd) (ih ?_ ?_)
    · exact fun d hd => hwild d (List.mem_cons_of_mem _ hd)
    · exact fun c hc d hd => hsame c (List.mem_cons_of_mem _ hc) d (List.mem_cons_of_mem _ hd)

end StarMatch

/-! ## Running the parts -/

/-- What follows succeeds exactly on the texts with the property. -/
def Reads (follow : Follow) (p : List Char → Prop) : Prop :=
  ∀ s, (follow s).isSome = true ↔ p s.after

theorem reads_end : Reads (fun s => if s.after.isEmpty then some s else none) (· = []) := by
  intro s
  show (if s.after.isEmpty then some s else none).isSome = true ↔ s.after = []
  cases h : s.after <;> simp

section Run

variable {mode : Mode} {follow : Follow} {p : List Char → Prop}

/-- One wild character. -/
def wildNode (mode : Mode) : Node := .seq (.char mode .any) .empty

theorem run_wildNode (s : Spot) (k : Follow) :
    (wildNode mode).run s k = (Node.char mode .any).run s k := by
  rw [wildNode, Node.run]
  rfl

def wild (mode : Mode) (c : Char) : Prop := CharTest.any.accepts mode c.toNat = true

theorem greedy_eq (round : Spot → Follow → Option Spot) (s : Spot) :
    greedy round none s follow
      = (round s fun t =>
          if t.after.length < s.after.length then greedy round none t follow
          else follow t).or (follow s) := by
  rw [greedy, if_neg (by simp)]
  simp only [Option.map_none]
  split
  · next heq => rw [heq, Option.some_or]
  · next heq => rw [heq, Option.none_or]

/-- A row of wild characters, and behind it a text with the property. -/
def RowThen (wild : Char → Prop) (p : List Char → Prop) (text : List Char) : Prop :=
  ∃ row rest, text = row ++ rest ∧ (∀ c ∈ row, wild c) ∧ p rest

theorem rowThen_nil {wild : Char → Prop} : RowThen wild p [] ↔ p [] := by
  constructor
  · rintro ⟨row, rest, htext, -, hp⟩
    obtain ⟨-, rfl⟩ := List.append_eq_nil_iff.1 htext.symm
    exact hp
  · intro hp
    exact ⟨[], [], rfl, by simp, hp⟩

theorem rowThen_cons {wild : Char → Prop} {d : Char} {text : List Char} :
    RowThen wild p (d :: text) ↔ (wild d ∧ RowThen wild p text) ∨ p (d :: text) := by
  constructor
  · rintro ⟨row, rest, htext, hrow, hp⟩
    rcases List.cons_eq_append_iff.1 htext with ⟨rfl, rfl⟩ | ⟨row', rfl, rfl⟩
    · exact .inr hp
    · have hd := hrow d List.mem_cons_self
      exact .inl ⟨hd, row', rest, rfl, fun c hc => hrow c (List.mem_cons_of_mem _ hc), hp⟩
  · rintro (⟨hd, row, rest, rfl, hrow, hp⟩ | hp)
    · refine ⟨d :: row, rest, rfl, ?_, hp⟩
      intro c hc
      rcases List.mem_cons.1 hc with rfl | hc
      · exact hd
      · exact hrow c hc
    · exact ⟨[], _, rfl, by simp, hp⟩

theorem greedy_wild (hf : Reads follow p) (s : Spot) :
    (greedy (fun t k => (wildNode mode).run t k) none s follow).isSome = true ↔
      RowThen (wild mode) p s.after := by
  -- On the text in front: a round that matches takes one character off it.
  generalize htext : s.after = text
  induction text generalizing s with
  | nil => rw [greedy_eq, run_wildNode, Node.run, htext, Option.none_or, hf, htext, rowThen_nil]
  | cons d text ih =>
    rw [greedy_eq, run_wildNode, Node.run, htext, Option.isSome_or, Bool.or_eq_true, hf, htext,
      rowThen_cons]
    refine or_congr ?_ Iff.rfl
    show (if CharTest.any.accepts mode d.toNat = true then _ else _ : Option Spot).isSome = true
      ↔ CharTest.any.accepts mode d.toNat = true ∧ _
    by_cases hd : CharTest.any.accepts mode d.toNat = true
    · have hshorter : (s.step d text).after.length < (d :: text).length := by simp [Spot.step]
      rw [if_pos hd, if_pos hshorter, ih _ rfl, and_iff_right hd]
    · rw [if_neg hd]
      simp [hd]

theorem run_anyRow (hf : Reads follow p) (s : Spot) :
    (((anyRow mode).node mode).run s follow).isSome = true ↔
      RowThen (wild mode) p s.after := by
  rw [← greedy_wild hf]
  rfl

theorem run_char (test : CharTest) (hf : Reads follow p) (s : Spot) :
    ((Node.char mode test).run s follow).isSome = true ↔
      ∃ d rest, s.after = d :: rest ∧ test.accepts mode d.toNat = true ∧ p rest := by
  rw [Node.run]
  cases h : s.after with
  | nil => simp
  | cons d rest =>
    show (if test.accepts mode d.toNat = true then _ else _ : Option Spot).isSome = true ↔ _
    constructor
    · intro hsome
      by_cases hd : test.accepts mode d.toNat = true
      · rw [if_pos hd, hf] at hsome
        exact ⟨d, rest, rfl, hd, hsome⟩
      · rw [if_neg hd] at hsome
        cases hsome
    · rintro ⟨d', rest', heq, hd, hp⟩
      cases heq
      rw [if_pos hd, hf]
      exact hp

/-- The parts of a starred text match what its stars and characters stand for. -/
theorem run_nodeOf (hf : Reads follow (· = [])) (g : List Char) :
    Reads (fun s => (Piece.nodeOf mode (g.map (pieceOf mode))).run s follow)
      (StarMatch (wild mode) (fun c d => mode.sameChar c.toNat d.toNat = true) g) := by
  induction g with
  | nil =>
    intro s
    exact (hf s).trans StarMatch.nil_iff.symm
  | cons c g ih =>
    intro s
    show (((pieceOf mode c).node mode).run s _).isSome = true ↔ _
    by_cases hc : c = '*'
    · subst hc
      rw [StarMatch.star_iff]
      exact run_anyRow ih s
    · rw [StarMatch.char_iff hc, pieceOf, if_neg hc]
      exact run_char _ ih s

end Run

theorem matchesWhole_starNode (ignoreCase : Bool) (g text : List Char) :
    (starNode ignoreCase g).matchesWhole text = true ↔
      StarMatch (wild { ignoreCase := ignoreCase })
        (fun c d => Mode.sameChar { ignoreCase := ignoreCase } c.toNat d.toNat = true) g text :=
  run_nodeOf reads_end g (Spot.start text)

/-! ## Letters of the ASCII alphabet -/

open Text

theorem toNat_toLower (c : Char) :
    c.toLower.toNat = if 0x41 ≤ c.toNat ∧ c.toNat ≤ 0x5a then c.toNat + 0x20 else c.toNat := by
  unfold Char.toLower
  split
  · next h =>
    have hlo : 0x41 ≤ c.toNat := h.1
    have hhi : c.toNat ≤ 0x5a := h.2
    rw [if_pos ⟨hlo, hhi⟩]
    show (c.val + ('a'.val - 'A'.val)).toNat = c.val.toNat + 0x20
    rw [UInt32.toNat_add]
    exact Nat.mod_eq_of_lt (Nat.lt_of_le_of_lt (Nat.add_le_add_right hhi _) (by decide))
  · next h => rw [if_neg fun hc => h ⟨hc.1, hc.2⟩]

theorem lowerCode_ascii {c : Char} (h : c.toNat < 0x80) : lowerCode c.toNat = c.toLower.toNat := by
  rw [lowerCode, if_pos h, toNat_toLower]
  simp

theorem lowerCode_lt {n : Nat} (h : n < 0x80) : lowerCode n < 0x80 := by
  rw [lowerCode, if_pos h]
  split
  · next hn =>
    simp only [Bool.and_eq_true, decide_eq_true_eq] at hn
    omega
  · exact h

/-- A character without letter case is the lower case of itself only. -/
theorem eq_iff_of_uncased {m n : Nat} (hm : m < 0x80) (hn : n < 0x80)
    (h : isCasedCode m = false) : m = n ↔ lowerCode m = lowerCode n := by
  simp only [isCasedCode, lowerCode, upperCode, if_pos hm, Bool.or_eq_false_iff,
    bne_eq_false_iff_eq, Bool.and_eq_true, decide_eq_true_eq] at h
  simp only [lowerCode, if_pos hm, if_pos hn, Bool.and_eq_true, decide_eq_true_eq]
  obtain ⟨hlower, hupper⟩ := h
  constructor
  · rintro rfl
    rfl
  · intro heq
    split at heq <;> split at heq <;> split at hlower <;> split at hupper <;> omega

theorem casePartners_ascii : ∀ n < 0x80, ∀ m ∈ casePartners n, 0x80 ≤ m := by
  decide +kernel

/-- The same character, apart from the case of ASCII letters if case is ignored. -/
def sameLetter (ignoreCase : Bool) (c d : Char) : Prop :=
  if ignoreCase then c.toLower = d.toLower else c = d

theorem sameChar_iff {ignoreCase : Bool} {c d : Char} (hc : c.toNat < 0x80) (hd : d.toNat < 0x80) :
    Mode.sameChar { ignoreCase := ignoreCase } c.toNat d.toNat = true ↔
      sameLetter ignoreCase c d := by
  cases ignoreCase with
  | false =>
    show (c.toNat == d.toNat) = true ↔ c = d
    rw [beq_iff_eq, Char.toNat_inj]
  | true =>
    show (if isCasedCode c.toNat then _ else _ : Bool) = true ↔ c.toLower = d.toLower
    rw [← Char.toNat_inj, ← lowerCode_ascii hc, ← lowerCode_ascii hd]
    split
    · next hcased =>
      show ((lowerCode c.toNat :: casePartners (lowerCode c.toNat)).contains (lowerCode d.toNat))
        = true ↔ _
      have hpartner : lowerCode d.toNat ∉ casePartners (lowerCode c.toNat) := by
        intro hmem
        have := casePartners_ascii _ (lowerCode_lt hc) _ hmem
        have := lowerCode_lt hd
        omega
      rw [List.contains_iff_mem, List.mem_cons, or_iff_left hpartner, eq_comm]
    · next hcased =>
      rw [beq_iff_eq, eq_iff_of_uncased hc hd (by simpa using hcased)]

end Pattern
end CatalogScout
