import CatalogScout.ConfigClient
import CatalogScout.Proofs.Pattern.Matching
import Mathlib.Data.List.Forall2

/-!
The scheme of an address, in whatever letter case it is spelled.

An address is cleaned and cut at its first colon before anything else is looked at, and both treat a
letter alike in either case.  So a respelled scheme leads to the same target, and what a scheme is
known by is in lower case.
-/

namespace CatalogScout

open Text Pattern

/-! ## Respelled texts -/

/-- The texts are alike but for the case of ASCII letters. -/
def Respelled (a b : List Char) : Prop := List.Forall₂ (fun c d => c.toLower = d.toLower) a b

/-- A character is in the class in either case, or in none. -/
def Caseless (p : Char → Bool) : Prop := ∀ c d : Char, c.toLower = d.toLower → p c = p d

namespace Respelled

variable {a b : List Char} {p : Char → Bool}

theorem dropWhile (hp : Caseless p) (h : Respelled a b) :
    Respelled (a.dropWhile p) (b.dropWhile p) := by
  induction h with
  | nil => exact .nil
  | @cons c d a b hcd hab ih =>
    rw [List.dropWhile_cons, List.dropWhile_cons, hp c d hcd]
    split
    · exact ih
    · exact .cons hcd hab

theorem filter (hp : Caseless p) (h : Respelled a b) : Respelled (a.filter p) (b.filter p) := by
  induction h with
  | nil => exact .nil
  | @cons c d a b hcd _ ih =>
    rw [List.filter_cons, List.filter_cons, hp c d hcd]
    split
    · exact .cons hcd ih
    · exact ih

theorem map_eq (h : Respelled a b) : a.map Char.toLower = b.map Char.toLower := by
  induction h with
  | nil => rfl
  | cons hcd _ ih => rw [List.map_cons, List.map_cons, hcd, ih]

theorem all_eq (hp : Caseless p) (h : Respelled a b) : a.all p = b.all p := by
  induction h with
  | nil => rfl
  | @cons c d a b hcd _ ih => rw [List.all_cons, List.all_cons, hp c d hcd, ih]

end Respelled

/-! ## Classes without letter case -/

theorem lowerAsciiCode_eq (c : Char) : lowerAsciiCode c.toNat = c.toLower.toNat := by
  rw [lowerAsciiCode, toNat_toLower]
  simp

theorem eq_or_letters {c d : Char} (h : c.toLower = d.toLower) :
    c = d ∨ (isAsciiLetterCode c.toNat = true ∧ isAsciiLetterCode d.toNat = true) := by
  have hnat : c.toLower.toNat = d.toLower.toNat := congrArg Char.toNat h
  rw [toNat_toLower, toNat_toLower] at hnat
  by_cases heq : c.toNat = d.toNat
  · exact Or.inl (Char.toNat_inj.1 heq)
  · right
    unfold isAsciiLetterCode
    simp only [Bool.or_eq_true, Bool.and_eq_true, decide_eq_true_eq]
    split at hnat <;> split at hnat <;> omega

/-- A class is caseless if all letters are in it, or none. -/
theorem caseless_of_letters {p : Char → Bool} (answer : Bool)
    (h : ∀ c : Char, isAsciiLetterCode c.toNat = true → p c = answer) : Caseless p := by
  intro c d hcd
  rcases eq_or_letters hcd with rfl | ⟨hc, hd⟩
  · rfl
  · rw [h c hc, h d hd]

theorem letter_bounds {c : Char} (h : isAsciiLetterCode c.toNat = true) :
    0x41 ≤ c.toNat ∧ c.toNat ≤ 0x7a := by
  unfold isAsciiLetterCode at h
  simp only [Bool.or_eq_true, Bool.and_eq_true, decide_eq_true_eq] at h
  omega

theorem ne_of_letter {c d : Char} (h : isAsciiLetterCode c.toNat = true)
    (hd : d.toNat < 0x41) : c ≠ d := by
  rintro rfl
  have := letter_bounds h
  omega

theorem lowerText_of_lower {s : List Char} (h : ∀ c ∈ s, c.toNat < 0x80 ∧ c.toLower = c) :
    lowerText s = s := by
  induction s with
  | nil => rfl
  | cons c s ih =>
    obtain ⟨hascii, hlower⟩ := h c List.mem_cons_self
    have hdot : c ≠ '\u0130' := by
      rintro rfl
      exact absurd hascii (by decide)
    rw [lowerText, List.flatMap_cons, if_neg hdot, lowerCode_ascii hascii, hlower,
      Char.ofNat_toNat]
    exact congrArg (c :: ·) (ih fun d hd => h d (List.mem_cons_of_mem c hd))

namespace Uri

theorem caseless_letter : Caseless fun c => isAsciiLetterCode c.toNat :=
  caseless_of_letters true fun _ h => h

theorem caseless_isSchemeChar : Caseless isSchemeChar :=
  caseless_of_letters true fun c h => by simp [isSchemeChar, h]

theorem caseless_control : Caseless fun c => c.toNat ≤ 0x20 := by
  refine caseless_of_letters false fun c h => decide_eq_false ?_
  have := letter_bounds h
  omega

theorem caseless_unbroken : Caseless fun c => !(c = '\t' || c = '\r' || c = '\n') := by
  refine caseless_of_letters true fun c h => ?_
  have htab := ne_of_letter h (d := '\t') (by decide)
  have hcr := ne_of_letter h (d := '\r') (by decide)
  have hlf := ne_of_letter h (d := '\n') (by decide)
  simp [htab, hcr, hlf]

theorem caseless_colon : Caseless (· != ':') := by
  refine caseless_of_letters true fun c h => ?_
  exact bne_iff_ne.2 (ne_of_letter h (by decide))

/-! ## Cutting the scheme off -/

/-- What is left, after cleaning, of the text before the first colon. -/
def cleanedFront (s : List Char) : List Char :=
  (s.dropWhile fun c => c.toNat ≤ 0x20).filter fun c => !(c = '\t' || c = '\r' || c = '\n')

theorem cleaned_colon (a rest : List Char) :
    cleaned (a ++ ':' :: rest)
      = cleanedFront a ++ ':' :: rest.filter fun c => !(c = '\t' || c = '\r' || c = '\n') := by
  rw [cleaned, List.dropWhile_append]
  split
  · next hempty =>
    rw [cleanedFront, List.isEmpty_iff.1 hempty]
    rfl
  · rw [List.filter_append]
    rfl

theorem cleanedFront_respelled {a b : List Char} (h : Respelled a b) :
    Respelled (cleanedFront a) (cleanedFront b) :=
  (h.dropWhile caseless_control).filter caseless_unbroken

theorem not_mem_cleanedFront {c : Char} {a : List Char} (h : c ∉ a) : c ∉ cleanedFront a :=
  fun hc => h ((List.dropWhile_sublist _).subset (List.mem_of_mem_filter hc))

theorem colon_not_mem {a b : List Char} (h : Respelled a b) (ha : ':' ∉ a) : ':' ∉ b := by
  have hiff : ∀ s : List Char, s.all (· != ':') = true ↔ ':' ∉ s := by
    intro s
    simp only [List.all_eq_true, bne_iff_ne]
    exact ⟨fun hne hmem => hne ':' hmem rfl, fun hmem c hc heq => hmem (heq ▸ hc)⟩
  rw [← hiff, ← h.all_eq caseless_colon, hiff]
  exact ha

theorem cutScheme_cons {c : Char} {r : List Char} (h : ':' ∉ c :: r) (rest : List Char) :
    cutScheme (c :: r ++ ':' :: rest)
      = if isAsciiLetterCode c.toNat && r.all isSchemeChar then
          ((c :: r).map Char.toLower, rest)
        else ([], c :: r ++ ':' :: rest) := by
  have hcut : cutAt (· == ':') (c :: r ++ ':' :: rest) = some (c :: r, rest) := by
    rw [cutAt_eq_some_iff]
    refine ⟨':', rfl, rfl, fun d hd => ?_⟩
    have hne : d ≠ ':' := fun heq => h (heq ▸ hd)
    simpa using hne
  have hlower : (fun d : Char => Char.ofNat (lowerAsciiCode d.toNat)) = Char.toLower := by
    funext d
    rw [lowerAsciiCode_eq, Char.ofNat_toNat]
  rw [cutScheme, hcut, hlower]

/-- A respelled scheme is cut off as the same scheme, or there is none in either text. -/
theorem cutScheme_respelled {a b : List Char} (h : Respelled a b) (ha : ':' ∉ a)
    (rest : List Char) :
    cutScheme (a ++ ':' :: rest) = cutScheme (b ++ ':' :: rest) ∨
      ((cutScheme (a ++ ':' :: rest)).1 = [] ∧ (cutScheme (b ++ ':' :: rest)).1 = []) := by
  have hb := colon_not_mem h ha
  cases h with
  | nil => exact Or.inl rfl
  | @cons c d a b hcd hab =>
    have hletter : isAsciiLetterCode c.toNat = isAsciiLetterCode d.toNat :=
      caseless_letter c d hcd
    have hall : a.all isSchemeChar = b.all isSchemeChar :=
      Respelled.all_eq caseless_isSchemeChar hab
    have hmap : (c :: a).map Char.toLower = (d :: b).map Char.toLower :=
      Respelled.map_eq (.cons hcd hab)
    rw [cutScheme_cons ha, cutScheme_cons hb, hletter, hall, hmap]
    split
    · exact Or.inl rfl
    · exact Or.inr ⟨rfl, rfl⟩

theorem parse_congr {s s' : List Char} (h : cutScheme (cleaned s) = cutScheme (cleaned s')) :
    parse s = parse s' := by
  rw [parse, parse, h]

theorem scheme_of_parse {s : List Char} {uri : Uri} (h : parse s = .ok uri) :
    uri.scheme = (cutScheme (cleaned s)).1 := by
  unfold parse at h
  simp only [bind, Except.bind] at h
  split at h
  · cases h
  · split at h
    · cases h
    · exact congrArg Uri.scheme (Except.ok.inj h).symm

theorem ascii_of_isSchemeChar {c : Char} (h : isSchemeChar c = true) : c.toNat < 0x80 := by
  unfold isSchemeChar at h
  simp only [Bool.or_eq_true, decide_eq_true_eq] at h
  rcases h with (((h | h) | rfl) | rfl) | rfl
  · have := letter_bounds h
    omega
  · simp only [Char.isDigit, Bool.and_eq_true, decide_eq_true_eq] at h
    exact Nat.lt_of_le_of_lt (UInt32.le_iff_toNat_le.1 h.2) (by decide)
  · decide
  · decide
  · decide

/-- What a scheme is made of is ASCII and in lower case. -/
theorem lower_of_mem_scheme {s : List Char} {c : Char} (h : c ∈ (cutScheme s).1) :
    c.toNat < 0x80 ∧ c.toLower = c := by
  unfold cutScheme at h
  split at h
  · next d r rest hcut =>
    split at h
    · next hscheme =>
      rw [Bool.and_eq_true, List.all_eq_true] at hscheme
      obtain ⟨e, he, rfl⟩ := List.mem_map.1 h
      rw [lowerAsciiCode_eq, Char.ofNat_toNat]
      have hchar : isSchemeChar e = true := by
        rcases List.mem_cons.1 he with rfl | he
        · simp [isSchemeChar, hscheme.1]
        · exact hscheme.2 e he
      have hascii := ascii_of_isSchemeChar hchar
      refine ⟨?_, Char.toNat_inj.1 ?_⟩
      · rw [toNat_toLower]
        split <;> omega
      · rw [toNat_toLower, if_neg]
        rw [toNat_toLower]
        split <;> omega
    · cases h
  · cases h

end Uri

/-! ## Targets -/

namespace ConfigClient

open Uri

theorem target_of_parse {uri : String} {parsed : Uri} (h : parse uri.toList = .ok parsed) :
    target uri = if parsed.scheme.isEmpty || parsed.path.isEmpty then .error (.malformedUri uri)
      else .ok (String.ofList parsed.scheme, Path.ofText parsed.path) := by
  rw [target, h]

theorem target_of_no_scheme {uri : String} (h : (cutScheme (cleaned uri.toList)).1 = []) :
    (target uri).toOption = none := by
  cases hparse : parse uri.toList with
  | error fault =>
    rw [target, hparse]
    rfl
  | ok parsed =>
    rw [target_of_parse hparse, scheme_of_parse hparse, h]
    rfl

/-- The scheme of a target is in lower case, as it would be registered. -/
theorem target_lower {uri scheme : String} {path : Path} (h : target uri = .ok (scheme, path)) :
    lowerText scheme.toList = scheme.toList := by
  cases hparse : parse uri.toList with
  | error fault =>
    rw [target, hparse] at h
    cases h
  | ok parsed =>
    rw [target_of_parse hparse] at h
    split at h
    · cases h
    · obtain ⟨rfl, -⟩ := Prod.mk.inj (Except.ok.inj h)
      rw [String.toList_ofList, scheme_of_parse hparse]
      refine lowerText_of_lower fun c hc => lower_of_mem_scheme hc

/-- The letter case of the scheme makes no difference. -/
theorem target_respelled {a b : String} (h : Respelled a.toList b.toList) (ha : ':' ∉ a.toList)
    (rest : String) :
    (target (a ++ ":" ++ rest)).toOption = (target (b ++ ":" ++ rest)).toOption := by
  have htext : ∀ s : String, (s ++ ":" ++ rest).toList = s.toList ++ ':' :: rest.toList := by
    intro s
    simp
  have hcut := cutScheme_respelled (cleanedFront_respelled h) (not_mem_cleanedFront ha)
    (rest.toList.filter fun c => !(c = '\t' || c = '\r' || c = '\n'))
  rw [← cleaned_colon, ← cleaned_colon, ← htext, ← htext] at hcut
  rcases hcut with hsame | ⟨hnone, hnone'⟩
  · have hparse := parse_congr hsame
    cases hb : parse (b ++ ":" ++ rest).toList with
    | error fault =>
      rw [target, target, hparse, hb]
    | ok parsed =>
      rw [target_of_parse hb, target_of_parse (hparse.trans hb)]
      split
      · rfl
      · rfl
  · rw [target_of_no_scheme hnone, target_of_no_scheme hnone']

end ConfigClient

end CatalogScout
