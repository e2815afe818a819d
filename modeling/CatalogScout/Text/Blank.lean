import CatalogScout.Text.Range

/-!
White space, and text with the white space at its ends cut off.

Every reader of this library trims with the same set of blanks: the Unicode white space
together with the four information separators U+001C to U+001F.  A zero-width space or a byte
order mark is not blank.
-/

namespace CatalogScout
namespace Text

def blankRanges : List (Nat × Nat) :=
  [(0x09, 0x0d), (0x1c, 0x20), (0x85, 0x85), (0xa0, 0xa0), (0x1680, 0x1680), (0x2000, 0x200a),
   (0x2028, 0x2029), (0x202f, 0x202f), (0x205f, 0x205f), (0x3000, 0x3000)]

def isBlankCode (code : Nat) : Bool := inRanges blankRanges code

def isBlank (c : Char) : Bool := isBlankCode c.toNat

/-- Without the blanks in front. -/
def trimLeft (s : List Char) : List Char := s.dropWhile isBlank

/-- Without the blanks behind. -/
def trimRight (s : List Char) : List Char := (s.reverse.dropWhile isBlank).reverse

def trim (s : List Char) : List Char := trimRight (trimLeft s)

/-- Nothing but blanks; the empty text counts. -/
def isBlankText (s : List Char) : Bool := s.all isBlank

/-- Without the copies of one character at the end. -/
def dropTrailing (c : Char) (s : List Char) : List Char :=
  (s.reverse.dropWhile (· == c)).reverse

theorem trimLeft_eq_nil_iff (s : List Char) : trimLeft s = [] ↔ isBlankText s = true := by
  induction s with
  | nil => simp [trimLeft, isBlankText]
  | cons c r ih =>
    by_cases h : isBlank c = true
    · have hl : trimLeft (c :: r) = trimLeft r := by simp [trimLeft, h]
      have ha : isBlankText (c :: r) = isBlankText r := by simp [isBlankText, h]
      rw [hl, ha]
      exact ih
    · simp [trimLeft, isBlankText, h]

/-- Trimming in front a second time changes nothing. -/
theorem trimLeft_trimLeft (s : List Char) : trimLeft (trimLeft s) = trimLeft s := by
  induction s with
  | nil => rfl
  | cons c r ih =>
    by_cases h : isBlank c = true
    · simpa [trimLeft, List.dropWhile_cons, h] using ih
    · simp [trimLeft, h]

theorem trim_eq_nil_iff (s : List Char) : trim s = [] ↔ isBlankText s = true := by
  rw [← trimLeft_eq_nil_iff]
  constructor
  · intro h
    have hr : trimLeft (trimLeft s).reverse = [] := by
      simpa [trim, trimRight, trimLeft] using h
    rw [trimLeft_eq_nil_iff, isBlankText, List.all_reverse] at hr
    rw [← trimLeft_trimLeft]
    exact (trimLeft_eq_nil_iff _).2 hr
  · intro h
    simp [trim, trimRight, h]

/-! ## The same on strings -/

def trimmed (s : String) : String := String.ofList (trim s.toList)

def isBlankString (s : String) : Bool := isBlankText s.toList

end Text
end CatalogScout
