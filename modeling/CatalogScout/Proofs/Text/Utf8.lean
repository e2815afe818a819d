import CatalogScout.Text.Utf8

/-!
Decoding succeeds exactly on encoded text.

Octets encode a character in one of four forms, by their number.  The forms say for the decoder
which octets it takes together, and for the encoder which octets it makes.
-/

namespace CatalogScout
namespace Text
namespace Utf8

/-- The octets of one character, and its code point. -/
inductive Form : List UInt8 → Nat → Prop where
  | one {a : UInt8} : a.toNat < 0x80 → Form [a] a.toNat
  | two {a b : UInt8} : 0xc2 ≤ a.toNat → a.toNat < 0xe0 → isContinuation b = true →
      Form [a, b] (a.toNat % 32 * 64 + low6 b)
  | three {a b c : UInt8} : 0xe0 ≤ a.toNat → a.toNat < 0xf0 → isSecondOfThree a b = true →
      isContinuation c = true → Form [a, b, c] ((a.toNat % 16 * 64 + low6 b) * 64 + low6 c)
  | four {a b c d : UInt8} : 0xf0 ≤ a.toNat → a.toNat < 0xf5 → isSecondOfFour a b = true →
      isContinuation c = true → isContinuation d = true →
      Form [a, b, c, d] (((a.toNat % 8 * 64 + low6 b) * 64 + low6 c) * 64 + low6 d)

/-! ## The decoder -/

theorem decodeFrom_form {octets : List UInt8} {code : Nat} (h : Form octets code) (pos : Nat)
    (rest : List UInt8) :
    decodeFrom pos (octets ++ rest)
      = (decodeFrom (pos + octets.length) rest).map (Char.ofNat code :: ·) := by
  rw [decodeFrom.eq_def]
  cases h with
  | one ha =>
    simp only [List.cons_append, List.nil_append]
    rw [if_pos ha]
    rfl
  | two ha ha' hb =>
    simp only [List.cons_append, List.nil_append]
    rw [if_neg (by omega), if_neg (by omega), if_pos ha', if_pos hb]
    rfl
  | three ha ha' hb hc =>
    simp only [List.cons_append, List.nil_append]
    rw [if_neg (by omega), if_neg (by omega), if_neg (by omega), if_pos ha', if_pos hb, if_pos hc]
    rfl
  | four ha ha' hb hc hd =>
    simp only [List.cons_append, List.nil_append]
    rw [if_neg (by omega), if_neg (by omega), if_neg (by omega), if_neg (by omega), if_pos ha',
      if_pos hb, if_pos hc, if_pos hd]
    rfl

/-- What is decoded begins with the octets of a character. -/
theorem form_of_decodeFrom {pos : Nat} {octets : List UInt8} {text : List Char}
    (h : decodeFrom pos octets = .ok text) (hne : octets ≠ []) :
    ∃ front code rest, octets = front ++ rest ∧ Form front code := by
  rw [decodeFrom.eq_def] at h
  split at h
  · exact absurd rfl hne
  · next a rest =>
    split at h
    · next ha => exact ⟨[a], _, rest, rfl, .one ha⟩
    split at h
    · cases h
    split at h
    · next hlow hhigh =>
      split at h
      · cases h
      · next b rest =>
        split at h
        · next hb => exact ⟨[a, b], _, rest, rfl, .two (by omega) hhigh hb⟩
        · cases h
    split at h
    · next hlow hhigh =>
      split at h
      · cases h
      · next b rest =>
        split at h
        · next hb =>
          split at h
          · cases h
          · next c rest =>
            split at h
            · next hc => exact ⟨[a, b, c], _, rest, rfl, .three (by omega) hhigh hb hc⟩
            · cases h
        · cases h
    split at h
    · next hlow hhigh =>
      split at h
      · cases h
      · next b rest =>
        split at h
        · next hb =>
          split at h
          · cases h
          · next c rest =>
            split at h
            · next hc =>
              split at h
              · cases h
              · next d rest =>
                split at h
                · next hd =>
                  exact ⟨[a, b, c, d], _, rest, rfl, .four (by omega) hhigh hb hc hd⟩
                · cases h
            · cases h
        · cases h
    · cases h

/-! ## The encoder -/

theorem isContinuation_iff {b : UInt8} : isContinuation b = true ↔ b.toNat / 64 = 2 := by
  rw [isContinuation, decide_eq_true_eq]

theorem isSecondOfThree_iff {a b : UInt8} :
    isSecondOfThree a b = true ↔
      b.toNat / 64 = 2 ∧ (a.toNat = 0xe0 → 0xa0 ≤ b.toNat) ∧ (a.toNat = 0xed → b.toNat < 0xa0) := by
  have hlow : a = 0xe0 ↔ a.toNat = 0xe0 := UInt8.toNat_inj.symm
  have hhigh : a = 0xed ↔ a.toNat = 0xed := UInt8.toNat_inj.symm
  simp only [isSecondOfThree, Bool.and_eq_true, isContinuation_iff, Bool.not_eq_true',
    Bool.and_eq_false_iff, decide_eq_false_iff_not, hlow, hhigh, and_assoc]
  omega

theorem isSecondOfFour_iff {a b : UInt8} :
    isSecondOfFour a b = true ↔
      b.toNat / 64 = 2 ∧ (a.toNat = 0xf0 → 0x90 ≤ b.toNat) ∧ (a.toNat = 0xf4 → b.toNat < 0x90) := by
  have hlow : a = 0xf0 ↔ a.toNat = 0xf0 := UInt8.toNat_inj.symm
  have hhigh : a = 0xf4 ↔ a.toNat = 0xf4 := UInt8.toNat_inj.symm
  simp only [isSecondOfFour, Bool.and_eq_true, isContinuation_iff, Bool.not_eq_true',
    Bool.and_eq_false_iff, decide_eq_false_iff_not, hlow, hhigh, and_assoc]
  omega

theorem toNat_ofNat {n : Nat} (h : n.isValidChar) : (Char.ofNat n).toNat = n := by
  rw [Char.ofNat, dif_pos h]
  rfl

theorem ofNat_eq {n : Nat} {a : UInt8} (h : n = a.toNat) : UInt8.ofNat n = a := by
  rw [h, UInt8.ofNat_toNat]

theorem toNat_octet {n : Nat} (h : n < 0x100) : (UInt8.ofNat n).toNat = n :=
  UInt8.toNat_ofNat_of_lt' h

/-- The code point of a form is one of a character. -/
theorem isValidChar_of_form {octets : List UInt8} {code : Nat} (h : Form octets code) :
    code.isValidChar := by
  cases h with
  | one ha => exact .inl (by omega)
  | two ha ha' hb =>
    simp only [low6]
    exact .inl (by omega)
  | three ha ha' hb hc =>
    obtain ⟨hb, -, hsurrogate⟩ := isSecondOfThree_iff.1 hb
    simp only [low6, Nat.isValidChar]
    omega
  | four ha ha' hb hc hd =>
    obtain ⟨hb, hlow, hhigh⟩ := isSecondOfFour_iff.1 hb
    simp only [low6, Nat.isValidChar]
    omega

section Sizes

variable {c : Char}

theorem encodeChar_one (h : c.toNat < 0x80) : encodeChar c = [UInt8.ofNat c.toNat] := by
  rw [encodeChar, String.utf8EncodeChar]
  exact if_pos (Nat.le_of_lt_succ h)

theorem encodeChar_two (h : 0x80 ≤ c.toNat) (h' : c.toNat < 0x800) :
    encodeChar c =
      [UInt8.ofNat (c.toNat / 64 % 0x20 + 0xc0), UInt8.ofNat (c.toNat % 0x40 + 0x80)] := by
  rw [encodeChar, String.utf8EncodeChar]
  exact (if_neg (Nat.not_le.2 h)).trans (if_pos (Nat.le_of_lt_succ h'))

theorem encodeChar_three (h : 0x800 ≤ c.toNat) (h' : c.toNat < 0x10000) :
    encodeChar c = [UInt8.ofNat (c.toNat / 4096 % 0x10 + 0xe0),
      UInt8.ofNat (c.toNat / 64 % 0x40 + 0x80), UInt8.ofNat (c.toNat % 0x40 + 0x80)] := by
  have hone : 0x7f < c.toNat := by omega
  rw [encodeChar, String.utf8EncodeChar]
  exact (if_neg (Nat.not_le.2 hone)).trans
    ((if_neg (Nat.not_le.2 h)).trans (if_pos (Nat.le_of_lt_succ h')))

theorem encodeChar_four (h : 0x10000 ≤ c.toNat) :
    encodeChar c = [UInt8.ofNat (c.toNat / 262144 % 0x08 + 0xf0),
      UInt8.ofNat (c.toNat / 4096 % 0x40 + 0x80), UInt8.ofNat (c.toNat / 64 % 0x40 + 0x80),
      UInt8.ofNat (c.toNat % 0x40 + 0x80)] := by
  have hone : 0x7f < c.toNat := by omega
  have htwo : 0x7ff < c.toNat := by omega
  rw [encodeChar, String.utf8EncodeChar]
  exact (if_neg (Nat.not_le.2 hone)).trans
    ((if_neg (Nat.not_le.2 htwo)).trans (if_neg (Nat.not_le.2 h)))

end Sizes

theorem encodeChar_form {octets : List UInt8} {code : Nat} (h : Form octets code) :
    encodeChar (Char.ofNat code) = octets := by
  have hcode := toNat_ofNat (isValidChar_of_form h)
  generalize Char.ofNat code = char at hcode
  cases h with
  | one ha => rw [encodeChar_one (by omega), ofNat_eq hcode]
  | @two a b ha ha' hb =>
    rw [isContinuation_iff] at hb
    simp only [low6] at hcode
    rw [encodeChar_two (by omega) (by omega), ofNat_eq (a := a) (by omega),
      ofNat_eq (a := b) (by omega)]
  | @three a b c ha ha' hb hc =>
    rw [isContinuation_iff] at hc
    obtain ⟨hb, hlow, -⟩ := isSecondOfThree_iff.1 hb
    simp only [low6] at hcode
    rw [encodeChar_three (by omega) (by omega), ofNat_eq (a := a) (by omega),
      ofNat_eq (a := b) (by omega), ofNat_eq (a := c) (by omega)]
  | @four a b c d ha ha' hb hc hd =>
    rw [isContinuation_iff] at hc hd
    obtain ⟨hb, hlow, hhigh⟩ := isSecondOfFour_iff.1 hb
    simp only [low6] at hcode
    rw [encodeChar_four (by omega), ofNat_eq (a := a) (by omega), ofNat_eq (a := b) (by omega),
      ofNat_eq (a := c) (by omega), ofNat_eq (a := d) (by omega)]

/-- Every character has a form. -/
theorem form_encodeChar (c : Char) : ∃ octets, Form octets c.toNat := by
  have hvalid : c.toNat < 0xd800 ∨ 0xdfff < c.toNat ∧ c.toNat < 0x110000 := c.valid
  generalize c.toNat = v at hvalid
  by_cases hone : v < 0x80
  · have ha := toNat_octet (n := v) (by omega)
    have hform : Form [UInt8.ofNat v] (UInt8.ofNat v).toNat := .one (by omega)
    rw [ha] at hform
    exact ⟨_, hform⟩
  by_cases htwo : v < 0x800
  · have ha := toNat_octet (n := v / 64 + 0xc0) (by omega)
    have hb := toNat_octet (n := v % 64 + 0x80) (by omega)
    have hform := Form.two (a := UInt8.ofNat (v / 64 + 0xc0)) (b := UInt8.ofNat (v % 64 + 0x80))
      (by omega) (by omega) (isContinuation_iff.2 (by omega))
    rw [low6, ha, hb] at hform
    have hv : (v / 64 + 0xc0) % 32 * 64 + (v % 64 + 0x80) % 64 = v := by omega
    exact ⟨_, hv ▸ hform⟩
  by_cases hthree : v < 0x10000
  · have ha := toNat_octet (n := v / 4096 + 0xe0) (by omega)
    have hb := toNat_octet (n := v / 64 % 64 + 0x80) (by omega)
    have hc := toNat_octet (n := v % 64 + 0x80) (by omega)
    have hform := Form.three (a := UInt8.ofNat (v / 4096 + 0xe0))
      (b := UInt8.ofNat (v / 64 % 64 + 0x80)) (c := UInt8.ofNat (v % 64 + 0x80))
      (by omega) (by omega) (isSecondOfThree_iff.2 (by omega)) (isContinuation_iff.2 (by omega))
    rw [low6, low6, ha, hb, hc] at hform
    have hv : ((v / 4096 + 0xe0) % 16 * 64 + (v / 64 % 64 + 0x80) % 64) * 64
        + (v % 64 + 0x80) % 64 = v := by omega
    exact ⟨_, hv ▸ hform⟩
  · have ha := toNat_octet (n := v / 262144 + 0xf0) (by omega)
    have hb := toNat_octet (n := v / 4096 % 64 + 0x80) (by omega)
    have hc := toNat_octet (n := v / 64 % 64 + 0x80) (by omega)
    have hd := toNat_octet (n := v % 64 + 0x80) (by omega)
    have hform := Form.four (a := UInt8.ofNat (v / 262144 + 0xf0))
      (b := UInt8.ofNat (v / 4096 % 64 + 0x80)) (c := UInt8.ofNat (v / 64 % 64 + 0x80))
      (d := UInt8.ofNat (v % 64 + 0x80)) (by omega) (by omega) (isSecondOfFour_iff.2 (by omega))
      (isContinuation_iff.2 (by omega)) (isContinuation_iff.2 (by omega))
    rw [low6, low6, low6, ha, hb, hc, hd] at hform
    have hv : (((v / 262144 + 0xf0) % 8 * 64 + (v / 4096 % 64 + 0x80) % 64) * 64
        + (v / 64 % 64 + 0x80) % 64) * 64 + (v % 64 + 0x80) % 64 = v := by omega
    exact ⟨_, hv ▸ hform⟩

/-! ## Both -/

theorem decodeFrom_encode (pos : Nat) (text : List Char) :
    decodeFrom pos (encode text) = .ok text := by
  induction text generalizing pos with
  | nil => rfl
  | cons c text ih =>
    obtain ⟨octets, hform⟩ := form_encodeChar c
    have hc := encodeChar_form hform
    rw [Char.ofNat_toNat] at hc
    rw [encode, List.flatMap_cons, hc, decodeFrom_form hform, Char.ofNat_toNat]
    show (decodeFrom _ (encode text)).map _ = _
    rw [ih]
    rfl

theorem encode_of_decodeFrom {pos : Nat} {octets : List UInt8} {text : List Char}
    (h : decodeFrom pos octets = .ok text) : octets = encode text := by
  -- On the number of octets: the first form leaves fewer of them.
  induction hlength : octets.length using Nat.strongRecOn generalizing pos octets text with
  | ind n ih =>
    by_cases hne : octets = []
    · subst hne
      cases h
      rfl
    · obtain ⟨front, code, rest, rfl, hform⟩ := form_of_decodeFrom h hne
      rw [decodeFrom_form hform] at h
      have hfront : 0 < front.length := by cases hform <;> exact Nat.succ_pos _
      rw [List.length_append] at hlength
      cases hrest : decodeFrom (pos + front.length) rest with
      | error fault =>
        rw [hrest] at h
        cases h
      | ok text' =>
        rw [hrest] at h
        obtain rfl := Except.ok.inj h
        have hr := ih rest.length (by omega) hrest rfl
        rw [encode, List.flatMap_cons, encodeChar_form hform, hr]
        rfl

/-- Octets decode exactly to the text that they encode. -/
theorem decode_eq_ok_iff (octets : List UInt8) (text : List Char) :
    decode octets = .ok text ↔ octets = encode text := by
  constructor
  · exact encode_of_decodeFrom
  · rintro rfl
    exact decodeFrom_encode 0 text

theorem encode_inj {a b : List Char} (h : encode a = encode b) : a = b :=
  Except.ok.inj (((decode_eq_ok_iff _ a).2 rfl).symm.trans ((decode_eq_ok_iff _ b).2 h))

end Utf8
end Text
end CatalogScout
