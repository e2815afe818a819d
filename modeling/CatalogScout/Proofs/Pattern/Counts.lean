import CatalogScout.Proofs.Pattern.Reading
import Mathlib

/-!
Patterns whose counts are too large.

Reading a pattern fails in many ways, and one of them is no fault of the pattern's form: a
repetition count that is no machine number.  It fails so only if such a number stands in the
pattern, between the braces of a quantifier.  The reader works on what is left of the pattern, so
every step of it is shown to keep what is left the end of the pattern and to blame no number that
does not stand there; what a step takes from the front counts only between braces.
-/

namespace CatalogScout
namespace Pattern

open Std.Do Text Reader

set_option mvcgen.warning false

/-- Digits that are read as a number, which is no machine number. -/
structure TooLarge (digits : List Char) : Prop where
  isDigit : ∀ c ∈ digits, isDigitChar c = true
  length_le : digits.length ≤ maxDigits
  countEnd_le : countEnd ≤ numberOf 10 digits

/-- Such a number stands in the text between braces, or between a brace and a comma. -/
def HasTooLarge (text : List Char) : Prop :=
  ∃ front digits back, front ∈ ['\x7b', ','] ∧ back ∈ ['\x7d', ','] ∧ TooLarge digits ∧
    front :: digits ++ [back] <:+: text

namespace Reader

variable {text : List Char} {α : Type}

/-! ## What a step takes

These say exactly what is taken off the front, whichever text it is the end of. -/

theorem text_tokenOf {rest : List Char} {t : Token} (h : tokenOf rest = some t) :
    t.text ++ rest.drop t.text.length = rest := by
  unfold tokenOf at h
  split at h
  · cases h
    rfl
  · cases h
    rfl
  · cases h

theorem moveTo_takes (rest : List Char) :
    ⦃⌜True⌝⦄ moveTo rest
    ⦃post⟨fun _ s => ⌜s.rest = rest⌝, fun fault => ⌜fault ≠ .countTooLarge⌝⟩⦄ := by
  intro s _
  unfold moveTo
  by_cases hlone : rest = ['\\']
  · rw [if_pos hlone]
    exact (nofun : Fault.atPosition .escapeAtEnd _ ≠ .countTooLarge)
  · rw [if_neg hlone]
    exact (rfl : rest = rest)

theorem next_takes (s₀ : Cursor) :
    ⦃fun s => ⌜s = s₀⌝⦄ next
    ⦃post⟨fun t s => ⌜t = tokenOf s₀.rest ∧ s₀.rest = t.elim [] Token.text ++ s.rest⌝,
      fun fault => ⌜fault ≠ .countTooLarge⌝⟩⦄ := by
  mvcgen [next, moveTo_takes]
  all_goals grind [text_tokenOf]

theorem accept_takes (c : Char) (s₀ : Cursor) :
    ⦃fun s => ⌜s = s₀⌝⦄ accept c
    ⦃post⟨fun taken s => ⌜s₀.rest = (if taken then [c] else []) ++ s.rest⌝,
      fun fault => ⌜fault ≠ .countTooLarge⌝⟩⦄ := by
  mvcgen [accept, peek, next_takes]
  all_goals grind [Token.text]

theorem takeWhileUpTo_takes (ok : Char → Bool) (n : Nat) (s₀ : Cursor) :
    ⦃fun s => ⌜s = s₀⌝⦄ takeWhileUpTo ok n
    ⦃post⟨fun cs s => ⌜s₀.rest = cs ++ s.rest ∧ ∀ c ∈ cs, ok c = true⌝,
      fun fault => ⌜fault ≠ .countTooLarge⌝⟩⦄ := by
  induction n generalizing s₀ with
  | zero =>
    mvcgen [takeWhileUpTo]
    all_goals grind
  | succ n ih =>
    mvcgen [takeWhileUpTo, peek, ih, next_takes]
    all_goals grind [Token.text]

theorem takeWhile_takes (ok : Char → Bool) (s₀ : Cursor) :
    ⦃fun s => ⌜s = s₀⌝⦄ takeWhile ok
    ⦃post⟨fun cs s => ⌜s₀.rest = cs ++ s.rest ∧ ∀ c ∈ cs, ok c = true⌝,
      fun fault => ⌜fault ≠ .countTooLarge⌝⟩⦄ := by
  mvcgen [takeWhile, takeWhileUpTo_takes]

/-! ## What every step keeps -/

/-- What is left to be read is the end of the text. -/
def Within (text : List Char) (s : Cursor) : Prop := s.rest <:+ text

/-- If a number is blamed, it stands in the text. -/
def Fair (text : List Char) (fault : Fault) : Prop := fault = .countTooLarge → HasTooLarge text

abbrev Keeps (text : List Char) (x : Reader α) : Prop :=
  ⦃fun s => ⌜Within text s⌝⦄ x
  ⦃post⟨fun _ s => ⌜Within text s⌝, fun fault => ⌜Fair text fault⌝⟩⦄

theorem Within.of_append {s s' : Cursor} {taken : List Char} (h : Within text s)
    (ht : s.rest = taken ++ s'.rest) : Within text s' := by
  unfold Within at h ⊢
  rw [ht] at h
  exact (List.suffix_append taken s'.rest).trans h

theorem fair_of_ne {fault : Fault} (h : fault ≠ .countTooLarge) : Fair text fault :=
  fun hsame => absurd hsame h

@[spec]
theorem faultAt_spec (problem : Problem) (place : Nat) :
    ⦃fun s => ⌜Within text s⌝⦄ (faultAt problem place : Reader α)
    ⦃post⟨fun _ _ => ⌜False⌝, fun fault => ⌜Fair text fault⌝⟩⦄ := by
  intro s _
  exact (nofun : Fair text (.atPosition problem place))

@[spec]
theorem fault_spec (problem : Problem) (back : Nat) :
    ⦃fun s => ⌜Within text s⌝⦄ (fault problem back : Reader α)
    ⦃post⟨fun _ _ => ⌜False⌝, fun fault => ⌜Fair text fault⌝⟩⦄ := by
  mvcgen [fault, position]

theorem moveTo_keeps {rest : List Char} (h : rest <:+ text) : Keeps text (moveTo rest) := by
  mvcgen [moveTo]
  all_goals grind

@[spec]
theorem next_keeps : Keeps text next := by
  mvcgen [next, moveTo_keeps]
  all_goals exact (List.drop_suffix _ _).trans ‹_›

@[spec]
theorem accept_keeps (c : Char) : Keeps text (accept c) := by
  mvcgen [accept, peek]

@[spec]
theorem takeWhileUpTo_keeps (ok : Char → Bool) (n : Nat) : Keeps text (takeWhileUpTo ok n) := by
  induction n with
  | zero => mvcgen [takeWhileUpTo]
  | succ n ih => mvcgen [takeWhileUpTo, peek, ih]

@[spec]
theorem nameUntil_keeps (closer : Char) (what : String) (n : Nat) (name : List Char) :
    Keeps text (nameUntil closer what n name) := by
  induction n generalizing name with
  | zero =>
    mvcgen [nameUntil]
    all_goals grind
  | succ n ih =>
    mvcgen [nameUntil, ih]
    all_goals grind

@[spec]
theorem name_keeps (closer : Char) (what : String) : Keeps text (name closer what) := by
  mvcgen [name]

@[spec]
theorem checkBehind_keeps (number : Nat) : Keeps text (checkBehind number) := by
  mvcgen [checkBehind, groupClosed]
  all_goals grind

@[spec]
theorem openGroup_keeps (label : Option (List Char)) : Keeps text (openGroup label) := by
  mvcgen [openGroup]

/-! ## Escapes, sets and switches -/

@[spec]
theorem hexEscape_keeps (letter : Char) (digits : Nat) : Keeps text (hexEscape letter digits) := by
  mvcgen [hexEscape]

@[spec]
theorem namedEscape_keeps [CharacterNames] : Keeps text namedEscape := by
  mvcgen [namedEscape]
  all_goals grind

@[spec]
theorem checkOctal_keeps (escape : List Char) (code : Nat) :
    Keeps text (checkOctal escape code) := by
  mvcgen [checkOctal]

@[spec]
theorem commonEscape_keeps [CharacterNames] (c : Char) : Keeps text (commonEscape c) := by
  mvcgen [commonEscape]

@[spec]
theorem literalEscape_keeps (c : Char) : Keeps text (literalEscape c) := by
  mvcgen [literalEscape]

@[spec]
theorem escapeInSet_keeps [CharacterNames] (c : Char) : Keeps text (escapeInSet c) := by
  mvcgen [escapeInSet]

@[spec]
theorem numberEscape_keeps (c : Char) : Keeps text (numberEscape c) := by
  mvcgen [numberEscape, groupClosed]

@[spec]
theorem escapeOutside_keeps [CharacterNames] (c : Char) : Keeps text (escapeOutside c) := by
  mvcgen [escapeOutside]

@[spec]
theorem escapeOfToken_keeps [CharacterNames] (t : Token) : Keeps text (escapeOfToken t) := by
  mvcgen [escapeOfToken]

@[spec]
theorem setMembers_keeps [CharacterNames] (start n : Nat) (members : List Member) :
    Keeps text (setMembers start n members) := by
  induction n generalizing members with
  | zero =>
    mvcgen [setMembers]
    all_goals grind
  | succ n ih =>
    mvcgen [setMembers, ih]
    all_goals grind

@[spec]
theorem set_keeps [CharacterNames] : Keeps text Reader.set := by
  mvcgen [Reader.set, position]

@[spec]
theorem flagsOn_keeps (n : Nat) (on : List Flag) (flag : Flag) :
    Keeps text (flagsOn n on flag) := by
  induction n generalizing on flag with
  | zero =>
    mvcgen [flagsOn]
    all_goals grind
  | succ n ih =>
    mvcgen [flagsOn, ih]
    all_goals grind

@[spec]
theorem flagsOff_keeps (n : Nat) (off : List Flag) (flag : Flag) :
    Keeps text (flagsOff n off flag) := by
  induction n generalizing off flag with
  | zero =>
    mvcgen [flagsOff]
    all_goals grind
  | succ n ih =>
    mvcgen [flagsOff, ih]
    all_goals grind

@[spec]
theorem flagsAfterMinus_keeps (on : List Flag) : Keeps text (flagsAfterMinus on) := by
  mvcgen [flagsAfterMinus]
  all_goals grind

@[spec]
theorem flagGroup_keeps (first : Option Flag) : Keeps text (flagGroup first) := by
  mvcgen [flagGroup]

/-! ## Counts

Only here a number is blamed.  The opening brace has been taken by then, so what is left is
preceded by it in the text. -/

/-- Digits that may be blamed: if they are too large, the text holds a number that is. -/
structure Counted (text digits : List Char) : Prop where
  isDigit : ∀ c ∈ digits, isDigitChar c = true
  inText : TooLarge digits → HasTooLarge text

theorem counted_between {front back : Char} {digits rest : List Char}
    (hfront : front ∈ ['\x7b', ',']) (hback : back ∈ ['\x7d', ','])
    (hdigits : ∀ c ∈ digits, isDigitChar c = true)
    (h : front :: (digits ++ back :: rest) <:+ text) : Counted text digits := by
  refine ⟨hdigits, fun hlarge => ⟨front, digits, back, hfront, hback, hlarge, ?_⟩⟩
  have hprefix : front :: digits ++ [back] <+: front :: (digits ++ back :: rest) :=
    ⟨rest, by simp⟩
  exact hprefix.isInfix.trans h.isInfix

theorem counted_only {left lo rest : List Char} (h : '\x7b' :: left <:+ text)
    (hleft : left = lo ++ '\x7d' :: rest) (hlo : ∀ c ∈ lo, isDigitChar c = true) :
    Counted text lo := by
  subst hleft
  exact counted_between (by decide) (by decide) hlo h

theorem counted_first {left lo rest : List Char} (h : '\x7b' :: left <:+ text)
    (hleft : left = lo ++ ',' :: rest) (hlo : ∀ c ∈ lo, isDigitChar c = true) :
    Counted text lo := by
  subst hleft
  exact counted_between (by decide) (by decide) hlo h

theorem counted_second {left lo hi rest : List Char} (h : '\x7b' :: left <:+ text)
    (hleft : left = lo ++ ',' :: (hi ++ '\x7d' :: rest)) (hhi : ∀ c ∈ hi, isDigitChar c = true) :
    Counted text hi := by
  subst hleft
  have hlast : ',' :: (hi ++ '\x7d' :: rest)
      <:+ '\x7b' :: (lo ++ ',' :: (hi ++ '\x7d' :: rest)) := ⟨'\x7b' :: lo, by simp⟩
  exact counted_between (by decide) (by decide) hhi (hlast.trans h)

theorem count_keeps {digits : List Char} (h : Counted text digits) :
    Keeps text (count digits) := by
  intro s hs
  unfold count
  by_cases hlong : maxDigits < digits.length
  · rw [if_pos hlong]
    exact (nofun : Fair text (.countTooLong digits.length))
  · rw [if_neg hlong]
    by_cases hlarge : countEnd ≤ numberOf 10 digits
    · have hfair : Fair text .countTooLarge :=
        fun _ => h.inText ⟨h.isDigit, Nat.le_of_not_lt hlong, hlarge⟩
      simp only [hlarge, if_true]
      exact hfair
    · simp only [hlarge, if_false]
      exact hs

/-- The bounds that digits in braces stand for. -/
def countsOf (here : Nat) (lo hi : List Char) : Reader (Option Bounds) := do
  let least ← if lo.isEmpty then pure 0 else count lo
  if hi.isEmpty then return some ⟨least, none⟩
  let most ← count hi
  if most < least then faultAt .repeatBoundsReversed here
  return some ⟨least, some most⟩

/-- What becomes of digits in front of which a brace stands, by what stands behind them. -/
def closedBounds (here : Nat) (start lo hi : List Char) : Reader (Option Bounds) := do
  if !(← accept '\x7d') then
    moveTo start
    return none
  countsOf here lo hi

theorem boundsInBraces_eq : boundsInBraces = (do
    let here ← position
    let start := (← get).rest
    if (← peek) = some (.plain '\x7d') then return none
    let lo ← takeWhile isDigitChar
    if ← accept ',' then
      let hi ← takeWhile isDigitChar
      closedBounds here start lo hi
    else closedBounds here start lo lo) :=
  rfl

theorem countsOf_keeps (here : Nat) {lo hi : List Char} (hlo : Counted text lo)
    (hhi : Counted text hi) : Keeps text (countsOf here lo hi) := by
  mvcgen [countsOf, count_keeps]

theorem closedBounds_keeps (here : Nat) {start lo hi : List Char} (hstart : start <:+ text)
    (s₀ : Cursor) (h : Within text s₀)
    (hlo : ∀ rest, s₀.rest = '\x7d' :: rest → Counted text lo)
    (hhi : ∀ rest, s₀.rest = '\x7d' :: rest → Counted text hi) :
    ⦃fun s => ⌜s = s₀⌝⦄ closedBounds here start lo hi
    ⦃post⟨fun _ s => ⌜Within text s⌝, fun fault => ⌜Fair text fault⌝⟩⦄ := by
  mvcgen [closedBounds, accept_takes, countsOf_keeps, moveTo_keeps, -accept_keeps]
  all_goals grind [Within.of_append, fair_of_ne]

theorem boundsInBraces_keeps (s₀ : Cursor) (h : '\x7b' :: s₀.rest <:+ text) :
    ⦃fun s => ⌜s = s₀⌝⦄ boundsInBraces
    ⦃post⟨fun _ s => ⌜Within text s⌝, fun fault => ⌜Fair text fault⌝⟩⦄ := by
  have hwithin : Within text s₀ := (List.suffix_cons _ _).trans h
  rw [boundsInBraces_eq]
  mvcgen [position, peek, closedBounds_keeps, accept_takes, takeWhile_takes, -accept_keeps]
  all_goals grind [Within, Within.of_append, fair_of_ne, counted_only, counted_first,
    counted_second]

theorem bounds?_keeps (c : Char) (s₀ : Cursor) (h : c :: s₀.rest <:+ text) :
    ⦃fun s => ⌜s = s₀⌝⦄ bounds? c
    ⦃post⟨fun _ s => ⌜Within text s⌝, fun fault => ⌜Fair text fault⌝⟩⦄ := by
  have hwithin : Within text s₀ := (List.suffix_cons _ _).trans h
  mvcgen [bounds?, boundsInBraces_keeps]
  all_goals grind

@[spec]
theorem repeatLast_keeps (mode : Mode) (place : Nat) (bounds : Bounds) (parts : List Piece) :
    Keeps text (repeatLast mode place bounds parts) := by
  mvcgen [repeatLast, greedOfSuffix]
  all_goals grind

/-! ## Groups -/

@[spec]
theorem skipPast_keeps (c : Char) (n : Nat) : Keeps text (skipPast c n) := by
  induction n with
  | zero => mvcgen [skipPast]
  | succ n ih => mvcgen [skipPast, ih]

@[spec]
theorem pieceOfEscape_keeps [CharacterNames] (c : Char) : Keeps text (pieceOfEscape c) := by
  mvcgen [pieceOfEscape, groupWidth]

@[spec]
theorem checkGroupName_keeps (name : List Char) : Keeps text (checkGroupName name) := by
  mvcgen [checkGroupName]
  all_goals grind

@[spec]
theorem namedReference_keeps : Keeps text namedReference := by
  mvcgen [namedReference, groupClosed, groupWidth]
  all_goals grind

@[spec]
theorem conditionGroup_keeps : Keeps text conditionGroup := by
  mvcgen [conditionGroup, position]
  all_goals grind [Within]

@[spec]
theorem closeBracket_keeps (start : Nat) : Keeps text (closeBracket start) := by
  mvcgen [closeBracket]
  all_goals grind

@[spec]
theorem noComment_keeps (start : Nat) : Keeps text (noComment start) := by
  mvcgen [noComment]
  all_goals grind

@[spec]
theorem exhausted_spec :
    ⦃fun s => ⌜Within text s⌝⦄ (exhausted : Reader α)
    ⦃post⟨fun _ _ => ⌜False⌝, fun fault => ⌜Fair text fault⌝⟩⦄ := by
  mvcgen [exhausted]

/-- What the readers that call one another keep, with so many calls still to come. -/
structure KeepsAll [CharacterNames] (text : List Char) (n : Nat) : Prop where
  branches : ∀ mode outermost done, Keeps text (branches n mode outermost done)
  alternation : ∀ mode outermost, Keeps text (alternation n mode outermost)
  sequence : ∀ mode first parts, Keeps text (sequence n mode first parts)
  opening : ∀ mode first, Keeps text (opening n mode first)
  capturing : ∀ mode start label, Keeps text (capturing n mode start label)
  lookAhead : ∀ mode start negated, Keeps text (lookAhead n mode start negated)
  lookBehind : ∀ mode start negated, Keeps text (lookBehind n mode start negated)
  condition : ∀ mode start, Keeps text (condition n mode start)

namespace KeepsAll

variable [CharacterNames] {n : Nat}

theorem zero : KeepsAll text 0 where
  branches mode outermost done := by
    mvcgen [Reader.branches]
    all_goals grind
  alternation mode outermost := by
    mvcgen [Reader.alternation]
    all_goals grind
  sequence mode first parts := by
    mvcgen [Reader.sequence]
    all_goals grind
  opening mode first := by
    mvcgen [Reader.opening]
    all_goals grind
  capturing mode start label := by
    mvcgen [Reader.capturing]
    all_goals grind
  lookAhead mode start negated := by
    mvcgen [Reader.lookAhead]
    all_goals grind
  lookBehind mode start negated := by
    mvcgen [Reader.lookBehind]
    all_goals grind
  condition mode start := by
    mvcgen [Reader.condition]
    all_goals grind

theorem branches_succ (h : KeepsAll text n) (mode : Mode) (outermost : Bool)
    (done : List (List Piece)) : Keeps text (Reader.branches (n + 1) mode outermost done) := by
  have hsequence := h.sequence
  have hbranches := h.branches
  mvcgen [Reader.branches, hsequence, hbranches]

theorem alternation_succ (h : KeepsAll text n) (mode : Mode) (outermost : Bool) :
    Keeps text (Reader.alternation (n + 1) mode outermost) := by
  have hbranches := h.branches
  mvcgen [Reader.alternation, hbranches]

/-- The character of a quantifier is known to stand in front of what is left. -/
theorem sequence_succ (h : KeepsAll text n) (mode : Mode) (first : Bool) (parts : List Piece) :
    Keeps text (Reader.sequence (n + 1) mode first parts) := by
  have hsequence := h.sequence
  have hopening := h.opening
  mvcgen [Reader.sequence, hsequence, hopening, peek, next_takes, bounds?_keeps, position,
    -next_keeps]
  all_goals grind [Within, Within.of_append, fair_of_ne, Token.text]

theorem opening_succ (h : KeepsAll text n) (mode : Mode) (first : Bool) :
    Keeps text (Reader.opening (n + 1) mode first) := by
  have halternation := h.alternation
  have hcapturing := h.capturing
  have hahead := h.lookAhead
  have hbehind := h.lookBehind
  have hcondition := h.condition
  mvcgen [Reader.opening, halternation, hcapturing, hahead, hbehind, hcondition, position]
  all_goals grind

theorem capturing_succ (h : KeepsAll text n) (mode : Mode) (start : Nat)
    (label : Option (List Char)) : Keeps text (Reader.capturing (n + 1) mode start label) := by
  have halternation := h.alternation
  mvcgen [Reader.capturing, halternation, closeGroup]

theorem lookAhead_succ (h : KeepsAll text n) (mode : Mode) (start : Nat) (negated : Bool) :
    Keeps text (Reader.lookAhead (n + 1) mode start negated) := by
  have halternation := h.alternation
  mvcgen [Reader.lookAhead, halternation]

theorem lookBehind_succ (h : KeepsAll text n) (mode : Mode) (start : Nat) (negated : Bool) :
    Keeps text (Reader.lookBehind (n + 1) mode start negated) := by
  have halternation := h.alternation
  mvcgen [Reader.lookBehind, halternation]

theorem condition_succ (h : KeepsAll text n) (mode : Mode) (start : Nat) :
    Keeps text (Reader.condition (n + 1) mode start) := by
  have hsequence := h.sequence
  mvcgen [Reader.condition, hsequence, peek]

end KeepsAll

/-- The induction is on the calls still to come, for all readers at once. -/
theorem keepsAll [CharacterNames] (text : List Char) (n : Nat) : KeepsAll text n := by
  induction n with
  | zero => exact .zero
  | succ n ih =>
    exact ⟨ih.branches_succ, ih.alternation_succ, ih.sequence_succ, ih.opening_succ,
      ih.capturing_succ, ih.lookAhead_succ, ih.lookBehind_succ, ih.condition_succ⟩

/-! ## Whole patterns -/

theorem checkAwaited_keeps : Keeps text checkAwaited := by
  mvcgen [checkAwaited]
  all_goals grind

theorem bothAlphabets_spec :
    ⦃fun s => ⌜Within text s⌝⦄ (throw .bothAlphabets : Reader α)
    ⦃post⟨fun _ _ => ⌜False⌝, fun fault => ⌜Fair text fault⌝⟩⦄ := by
  intro s _
  exact (nofun : Fair text .bothAlphabets)

theorem wholePattern_keeps [CharacterNames] : Keeps text wholePattern := by
  have halternation := fun n => (keepsAll text n).alternation
  mvcgen [wholePattern, halternation, checkAwaited_keeps, moveTo_keeps, peek, bothAlphabets_spec,
    -Spec.throw_MonadExcept]

theorem fair_of_error {x : Reader α} (hx : Keeps text x) {s : Cursor} (hs : Within text s)
    {fault : Fault} (h : x s = .error fault) : Fair text fault := by
  let told : Except Fault (α × Cursor) → Prop
    | .ok r => Within text r.2
    | .error fault => Fair text fault
  exact Except.of_wp_eq h told fun _ => hx s hs

end Reader

theorem widthFault?_ne (node : Node) : node.widthFault? ≠ some .countTooLarge := by
  have hor : ∀ {a b : Option Fault}, a ≠ some .countTooLarge → b ≠ some .countTooLarge →
      a.or b ≠ some .countTooLarge := by
    intro a b ha hb
    cases a with
    | none => exact hb
    | some fault => exact ha
  have hnone : none ≠ some Fault.countTooLarge := (Option.some_ne_none _).symm
  induction node with
  | empty => exact hnone
  | char => exact hnone
  | anchor => exact hnone
  | backref => exact hnone
  | seq first second ih₁ ih₂ => exact hor ih₁ ih₂
  | alt first second ih₁ ih₂ => exact hor ih₁ ih₂
  | group number body ih => exact ih
  | ahead negated body ih => exact ih
  | atomic body ih => exact ih
  | repeated greed least most body ih => exact ih
  | ifGroup number yes no ih₁ ih₂ => exact hor ih₁ ih₂
  | behind negated width body ih =>
    unfold Node.widthFault?
    split
    · simp
    · split
      · simp
      · exact ih

/-- What a node that was read comes to. -/
def ofNode (ignoreCase : Bool) (source : List Char) (node : Node) : Except Fault Pattern :=
  match node.widthFault? with
  | some fault => .error fault
  | none => .ok ⟨source, ignoreCase, node⟩

theorem compile_eq [CharacterNames] (ignoreCase : Bool) (source : List Char) :
    compile ignoreCase source =
      (wholePattern { size := source.length, rest := source, mode := { ignoreCase := ignoreCase } }
        >>= fun r => ofNode ignoreCase source r.1) :=
  rfl

theorem ofNode_ne (ignoreCase : Bool) (source : List Char) (node : Node) :
    ofNode ignoreCase source node ≠ .error .countTooLarge := by
  intro h
  unfold ofNode at h
  split at h
  · next fault hwidth =>
    obtain rfl := Except.error.inj h
    exact widthFault?_ne node hwidth
  · cases h

/-- A pattern with a number that is blamed has it between its braces. -/
theorem hasTooLarge_of_compile [CharacterNames] {ignoreCase : Bool} {source : List Char}
    (h : compile ignoreCase source = .error .countTooLarge) : HasTooLarge source := by
  rw [compile_eq] at h
  cases hread : wholePattern
      { size := source.length, rest := source, mode := { ignoreCase := ignoreCase } } with
  | error fault =>
    rw [hread] at h
    obtain rfl : fault = .countTooLarge := Except.error.inj h
    exact fair_of_error wholePattern_keeps List.suffix_rfl hread rfl
  | ok r =>
    rw [hread] at h
    exact absurd h (ofNode_ne ignoreCase source r.1)

/-! ## Stars

A pattern is read with a dot in front of each star, and what is blamed has neither. -/

/-- The text has no star, and no dot that might stand in front of one. -/
def Starless (word : List Char) : Prop := ∀ c ∈ word, c ≠ '.' ∧ c ≠ '*'

theorem prefix_of_starred {word source : List Char} (hword : Starless word)
    (h : word <+: starred source) : word <+: source := by
  induction word generalizing source with
  | nil => exact List.nil_prefix
  | cons c word ih =>
    obtain ⟨⟨hdot, hstar⟩, hrest⟩ := List.forall_mem_cons.1 hword
    cases source with
    | nil => exact absurd (List.prefix_nil.1 h) (List.cons_ne_nil c word)
    | cons d source =>
      by_cases hd : d = '*'
      · subst hd
        rw [starred_cons_star] at h
        exact absurd (List.cons_prefix_cons.1 h).1 hdot
      · rw [starred_cons hd] at h
        obtain ⟨rfl, hmore⟩ := List.cons_prefix_cons.1 h
        exact List.cons_prefix_cons.2 ⟨rfl, ih hrest hmore⟩

theorem infix_of_starred {c : Char} {word source : List Char} (hword : Starless (c :: word))
    (h : c :: word <:+: starred source) : c :: word <:+: source := by
  obtain ⟨hdot, hstar⟩ := hword c List.mem_cons_self
  induction source with
  | nil => exact absurd (List.infix_nil.1 h) (List.cons_ne_nil c word)
  | cons d source ih =>
    by_cases hd : d = '*'
    · subst hd
      rw [starred_cons_star] at h
      rcases List.infix_cons_iff.1 h with hfront | hlater
      · exact absurd (List.cons_prefix_cons.1 hfront).1 hdot
      · rcases List.infix_cons_iff.1 hlater with hfront | hbehind
        · exact absurd (List.cons_prefix_cons.1 hfront).1 hstar
        · exact (ih hbehind).trans (List.suffix_cons _ _).isInfix
    · rw [starred_cons hd] at h
      rcases List.infix_cons_iff.1 h with hfront | hbehind
      · rw [← starred_cons hd] at hfront
        exact (prefix_of_starred hword hfront).isInfix
      · exact (ih hbehind).trans (List.suffix_cons _ _).isInfix

theorem starless_of_between {front back : Char} {digits : List Char}
    (hfront : front ∈ ['\x7b', ',']) (hback : back ∈ ['\x7d', ','])
    (hdigits : ∀ c ∈ digits, isDigitChar c = true) : Starless (front :: digits ++ [back]) := by
  have hopen : ∀ c ∈ ['\x7b', ','], c ≠ '.' ∧ c ≠ '*' := by simp
  have hclose : ∀ c ∈ ['\x7d', ','], c ≠ '.' ∧ c ≠ '*' := by simp
  intro c hc
  rcases List.mem_append.1 hc with hc | hc
  · rcases List.mem_cons.1 hc with rfl | hc
    · exact hopen c hfront
    · have hdigit := hdigits c hc
      constructor
      · rintro rfl
        exact absurd hdigit (by decide)
      · rintro rfl
        exact absurd hdigit (by decide)
  · obtain rfl := List.mem_singleton.1 hc
    exact hclose c hback

theorem hasTooLarge_of_starred {source : List Char} (h : HasTooLarge (starred source)) :
    HasTooLarge source := by
  obtain ⟨front, digits, back, hfront, hback, hlarge, hin⟩ := h
  have hstarless := starless_of_between hfront hback hlarge.isDigit
  exact ⟨front, digits, back, hfront, hback, hlarge, infix_of_starred hstarless hin⟩

end Pattern
end CatalogScout
