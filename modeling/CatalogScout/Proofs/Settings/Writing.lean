import CatalogScout.Proofs.Settings.Entries
import CatalogScout.Proofs.Settings.Files

/-!
Settings as they are written, and that they are read back.

A file of settings is written line by line.  A line has an entry, a comment, or nothing in it, with
white space where it does no harm, and ends in any of three ways.  No part of a line has a line
boundary in it, so the lines are found again one by one.  A carriage return at the end of a line may
meet a line feed that is an empty line of its own: then the two are read as one line end, and the
empty line, which has no entry, is lost.
-/

namespace CatalogScout

/-! ## Lines of a text -/

namespace Text

/-- No line ends inside of the text. -/
def OneLine (s : List Char) : Prop := ∀ c ∈ s, isLineEnd c = false

instance (s : List Char) : Decidable (OneLine s) :=
  List.decidableBAll _ s

theorem oneLine_nil : OneLine [] := nofun

theorem oneLine_append {s t : List Char} : OneLine (s ++ t) ↔ OneLine s ∧ OneLine t := by
  simp only [OneLine, List.forall_mem_append]

theorem oneLine_cons {c : Char} {s : List Char} :
    OneLine (c :: s) ↔ isLineEnd c = false ∧ OneLine s := by
  simp only [OneLine, List.forall_mem_cons]

/-- Line ends are blanks. -/
theorem isLineEnd_of_not_blank {c : Char} (h : isBlank c = false) : isLineEnd c = false := by
  have hblank : ∀ d ∈ lineEnds, isBlank d = true := List.all_eq_true.1 (by decide)
  rw [Bool.eq_false_iff]
  intro hend
  rw [hblank c (List.contains_iff_mem.1 hend)] at h
  cases h

/-- What a line may end in. -/
inductive LineStop : List Char → Prop where
  | feed : LineStop ['\n']
  | returnFeed : LineStop ['\r', '\n']
  | carriageReturn : LineStop ['\r']

theorem ne_return_of_isLineEnd {c : Char} (h : isLineEnd c = false) : c ≠ '\r' := by
  rintro rfl
  exact absurd h (by decide)

theorem unifyNewlines_append {row : List Char} (h : OneLine row) (s : List Char) :
    unifyNewlines (row ++ s) = row ++ unifyNewlines s := by
  induction row with
  | nil => rfl
  | cons c row ih =>
    rw [oneLine_cons] at h
    have hc := ne_return_of_isLineEnd h.1
    rw [List.cons_append, List.cons_append, ← ih h.2, unifyNewlines]
    · rintro - rfl
      exact absurd rfl hc
    · exact hc

/-- A carriage return takes the line feed behind it along. -/
theorem unifyNewlines_return (s : List Char) :
    (∃ t, s = '\n' :: t ∧ unifyNewlines ('\r' :: s) = unifyNewlines ('\n' :: t)) ∨
      unifyNewlines ('\r' :: s) = unifyNewlines ('\n' :: s) := by
  by_cases hfeed : ∃ t, s = '\n' :: t
  · obtain ⟨t, rfl⟩ := hfeed
    exact .inl ⟨t, rfl, rfl⟩
  · right
    rw [unifyNewlines]
    · rfl
    · rintro t rfl
      exact hfeed ⟨t, rfl⟩

theorem lines_cons {c : Char} (h : isLineEnd c = false) (s : List Char) :
    lines (c :: s) = match lines s with
      | [] => [[c]]
      | l :: ls => (c :: l) :: ls := by
  rw [lines, h]
  · rfl
  · rintro - rfl
    exact absurd rfl (ne_return_of_isLineEnd h)

theorem lines_append_feed {row : List Char} (h : OneLine row) (s : List Char) :
    lines (row ++ '\n' :: s) = row :: lines s := by
  induction row with
  | nil => rfl
  | cons c row ih =>
    rw [oneLine_cons] at h
    rw [List.cons_append, lines_cons h.1, ih h.2]

/-- A line without an end at the end of the text is a line, unless it is empty. -/
theorem lines_of_oneLine {row : List Char} (h : OneLine row) (hne : row ≠ []) :
    lines row = [row] := by
  induction row with
  | nil => exact absurd rfl hne
  | cons c row ih =>
    rw [oneLine_cons] at h
    rw [lines_cons h.1]
    by_cases hrow : row = []
    · rw [hrow]
      rfl
    · rw [ih h.2 hrow]

end Text

namespace Settings

open Text

/-! ## Entries of a text -/

theorem entriesOf_congr {row s t : List Char} (h : OneLine row)
    (hsame : unifyNewlines s = unifyNewlines t) : entriesOf (row ++ s) = entriesOf (row ++ t) := by
  rw [entriesOf, entriesOf, unifyNewlines_append h, unifyNewlines_append h, hsame]

theorem entriesOf_feed {row : List Char} (h : OneLine row) (s : List Char) :
    entriesOf (row ++ '\n' :: s) = (entryOfLine? row).toList ++ entriesOf s := by
  have hfeed : unifyNewlines ('\n' :: s) = '\n' :: unifyNewlines s := rfl
  rw [entriesOf, unifyNewlines_append h, hfeed, lines_append_feed h, List.filterMap_cons]
  cases entryOfLine? row <;> rfl

/-- What is behind the end of a line is read as if it stood alone. -/
theorem entriesOf_line {row stop : List Char} (h : OneLine row) (hstop : LineStop stop)
    (s : List Char) :
    entriesOf (row ++ stop ++ s) = (entryOfLine? row).toList ++ entriesOf s := by
  rw [List.append_assoc]
  cases hstop with
  | feed => exact entriesOf_feed h s
  | returnFeed =>
    rw [← entriesOf_feed h s]
    exact entriesOf_congr h rfl
  | carriageReturn =>
    rcases unifyNewlines_return s with ⟨t, rfl, hsame⟩ | hsame
    · -- The line feed is an empty line of its own, or the second half of this line's end.
      have hempty : entriesOf ('\n' :: t) = entriesOf t := entriesOf_feed oneLine_nil t
      rw [hempty, ← entriesOf_feed h t]
      exact entriesOf_congr h hsame
    · rw [← entriesOf_feed h s]
      exact entriesOf_congr h hsame

theorem entriesOf_last {row : List Char} (h : OneLine row) :
    entriesOf row = (entryOfLine? row).toList := by
  by_cases hne : row = []
  · rw [hne]
    rfl
  · have hrow := unifyNewlines_append h []
    rw [List.append_nil, unifyNewlines, List.append_nil] at hrow
    rw [entriesOf, hrow, lines_of_oneLine h hne, List.filterMap_cons]
    cases entryOfLine? row <;> rfl

/-! ## Entries as they are written -/

/-- An entry that can be written on one line. -/
structure Entry where
  key : List Char
  value : List Char
  key_ne_nil : key ≠ []
  key_ends : NoBlankEnds key
  key_undivided : '=' ∉ key ∧ ':' ∉ key
  key_start : ∀ c ∈ key.head?, c ≠ '#' ∧ c ≠ '!'
  key_oneLine : OneLine key
  value_ends : NoBlankEnds value
  value_oneLine : OneLine value

/-- The entry as settings have it. -/
def Entry.pair (e : Entry) : String × String := (String.ofList e.key, String.ofList e.value)

/-- White space within a line. -/
structure Gap (s : List Char) : Prop where
  blank : isBlankText s = true
  oneLine : OneLine s

/-- A line without its end, and what entries it has. -/
inductive RowOf : List Entry → List Char → Prop where
  | entry {e : Entry} {a b c d : List Char} {sep : Char} (ha : Gap a) (hb : Gap b) (hc : Gap c)
      (hd : Gap d) (hsep : sep = '=' ∨ sep = ':') :
      RowOf [e] (a ++ e.key ++ b ++ sep :: (c ++ e.value ++ d))
  | keyOnly {e : Entry} {a b : List Char} (ha : Gap a) (hb : Gap b) (hvalue : e.value = []) :
      RowOf [e] (a ++ e.key ++ b)
  | blank {a : List Char} (ha : Gap a) : RowOf [] a
  | comment {a rest : List Char} {mark : Char} (ha : Gap a) (hmark : mark = '#' ∨ mark = '!')
      (hrest : OneLine rest) : RowOf [] (a ++ mark :: rest)

/-- A text, line by line, and its entries in order.  The last line need not have an end. -/
inductive TextOf : List Entry → List Char → Prop where
  | last {entries : List Entry} {row : List Char} (hrow : RowOf entries row) : TextOf entries row
  | line {entries more : List Entry} {row stop rest : List Char} (hrow : RowOf entries row)
      (hstop : LineStop stop) (hrest : TextOf more rest) :
      TextOf (entries ++ more) (row ++ stop ++ rest)

/-! ### One line -/

section Row

variable {e : Entry} {a b : List Char}

theorem Entry.isSeparator_of_mem_key (e : Entry) {c : Char} (hc : c ∈ e.key) :
    isSeparator c = false := by
  rw [Bool.eq_false_iff, Ne, isSeparator_iff]
  rintro (rfl | rfl)
  · exact e.key_undivided.1 hc
  · exact e.key_undivided.2 hc

theorem isSeparator_of_mem_front (ha : Gap a) (hb : Gap b) :
    ∀ c ∈ a ++ e.key ++ b, isSeparator c = false := by
  intro c hc
  simp only [List.mem_append] at hc
  rcases hc with (hc | hc) | hc
  · exact isSeparator_of_isBlank (List.all_eq_true.1 ha.blank c hc)
  · exact e.isSeparator_of_mem_key hc
  · exact isSeparator_of_isBlank (List.all_eq_true.1 hb.blank c hc)

theorem not_isComment_of_key (e : Entry) (ha : Gap a) (rest : List Char) :
    ¬IsComment (a ++ e.key ++ rest) := by
  rintro ⟨mark, hmark, hsign⟩
  cases hkey : e.key with
  | nil => exact e.key_ne_nil hkey
  | cons c key =>
    have hfirst : c ∈ e.key.head? := by rw [hkey]; rfl
    obtain ⟨r, htrim⟩ := trim_eq_cons (s := key ++ rest) ha.blank (e.key_ends.first c hfirst)
    rw [hkey, List.append_assoc, List.cons_append, htrim] at hmark
    obtain rfl := Option.some.inj hmark
    have hplain := e.key_start c hfirst
    exact hsign.elim hplain.1 hplain.2

theorem entryOfLine?_entry {c d : List Char} {sep : Char} (ha : Gap a) (hb : Gap b) (hc : Gap c)
    (hd : Gap d) (hsep : sep = '=' ∨ sep = ':') :
    entryOfLine? (a ++ e.key ++ b ++ sep :: (c ++ e.value ++ d)) = some e.pair := by
  have hcut : cutAt isSeparator (a ++ e.key ++ b ++ sep :: (c ++ e.value ++ d))
      = some (a ++ e.key ++ b, c ++ e.value ++ d) :=
    (cutAt_eq_some_iff _ _ _ _).2
      ⟨sep, rfl, isSeparator_iff.2 hsep, isSeparator_of_mem_front ha hb⟩
  have hcomment : ¬IsComment (a ++ e.key ++ b ++ sep :: (c ++ e.value ++ d)) := by
    rw [List.append_assoc (a ++ e.key)]
    exact not_isComment_of_key e ha _
  refine entryOfLine?_eq hcomment ?_ e.key_ne_nil
  rw [cutEntry, hcut]
  show (trim (a ++ e.key ++ b), trim (c ++ e.value ++ d)) = (e.key, e.value)
  rw [trim_padded ha.blank hb.blank, trim_padded hc.blank hd.blank, e.key_ends.trim_eq,
    e.value_ends.trim_eq]

theorem entryOfLine?_keyOnly (ha : Gap a) (hb : Gap b) (hvalue : e.value = []) :
    entryOfLine? (a ++ e.key ++ b) = some e.pair := by
  rw [Entry.pair, hvalue]
  refine entryOfLine?_eq (not_isComment_of_key e ha b) ?_ e.key_ne_nil
  rw [cutEntry, cutAt_eq_none_iff.2 (isSeparator_of_mem_front ha hb), trim_padded ha.blank hb.blank,
    e.key_ends.trim_eq]

end Row

theorem isBlank_mark {mark : Char} (h : mark = '#' ∨ mark = '!') : isBlank mark = false := by
  rcases h with rfl | rfl
  · decide
  · decide

variable {entries : List Entry} {row text : List Char}

theorem entryOfLine?_row (h : RowOf entries row) :
    (entryOfLine? row).toList = entries.map Entry.pair := by
  cases h with
  | entry ha hb hc hd hsep =>
    rw [entryOfLine?_entry ha hb hc hd hsep]
    rfl
  | keyOnly ha hb hvalue =>
    rw [entryOfLine?_keyOnly ha hb hvalue]
    rfl
  | blank ha =>
    rw [entryOfLine?_of_blank ha.blank]
    rfl
  | @comment _ rest mark ha hmark _ =>
    obtain ⟨r, htrim⟩ := trim_eq_cons (s := rest) ha.blank (isBlank_mark hmark)
    rw [entryOfLine?_of_comment ⟨mark, by rw [htrim]; rfl, hmark⟩]
    rfl

theorem oneLine_of_row (h : RowOf entries row) : OneLine row := by
  cases h with
  | @entry e _ _ _ _ sep ha hb hc hd hsep =>
    have hblank : isBlank sep = false := by
      rcases hsep with rfl | rfl
      · decide
      · decide
    simp only [oneLine_append, oneLine_cons]
    exact ⟨⟨⟨ha.oneLine, e.key_oneLine⟩, hb.oneLine⟩, isLineEnd_of_not_blank hblank,
      ⟨hc.oneLine, e.value_oneLine⟩, hd.oneLine⟩
  | @keyOnly e _ _ ha hb =>
    simp only [oneLine_append]
    exact ⟨⟨ha.oneLine, e.key_oneLine⟩, hb.oneLine⟩
  | blank ha => exact ha.oneLine
  | comment ha hmark hrest =>
    exact oneLine_append.2
      ⟨ha.oneLine, oneLine_cons.2 ⟨isLineEnd_of_not_blank (isBlank_mark hmark), hrest⟩⟩

/-! ### The whole text -/

theorem entriesOf_text (h : TextOf entries text) : entriesOf text = entries.map Entry.pair := by
  induction h with
  | last hrow => rw [entriesOf_last (oneLine_of_row hrow), entryOfLine?_row hrow]
  | line hrow hstop _ ih =>
    rw [entriesOf_line (oneLine_of_row hrow) hstop, entryOfLine?_row hrow, ih, List.map_append]

/-- A file of settings that is written line by line is read back: it holds the keys of the entries,
each with the value of its last entry, and nothing else. -/
theorem ofOctets_written (h : TextOf entries text) :
    ∃ s, ofOctets (Utf8.encode text) = .ok s ∧
      ∀ key value, s.get? key = some value ↔ LastValue (entries.map Entry.pair) key value := by
  refine ⟨_, ofOctets_encode text, fun key value => ?_⟩
  rw [get?_ofText, entriesOf_text h]

/-! ### A case -/

def storeEntry : Entry where
  key := "uri".toList
  value := "file:///s=1".toList
  key_ne_nil := by decide
  key_ends := by decide
  key_undivided := by decide
  key_start := by rintro _ ⟨⟩; decide
  key_oneLine := by decide
  value_ends := by decide
  value_oneLine := by decide

/-- The size of something, as a value of one character or none. -/
def sizeEntry (digit : Option Char) (h : ∀ c ∈ digit, isBlank c = false) : Entry where
  key := ['n']
  value := digit.toList
  key_ne_nil := by decide
  key_ends := by decide
  key_undivided := by decide
  key_start := by rintro _ ⟨⟩; decide
  key_oneLine := by decide
  value_ends := by
    cases digit with
    | none => exact ⟨nofun, nofun⟩
    | some c => exact ⟨h, h⟩
  value_oneLine := by
    intro c hc
    exact isLineEnd_of_not_blank (h c (Option.mem_toList.1 hc))

def smallEntry : Entry := sizeEntry (some '2') (by rintro _ ⟨⟩; rfl)

def emptyEntry : Entry := sizeEntry none nofun

/-- Two entries with one key, a comment, and a line feed of its own behind a carriage return. -/
theorem textOf_sample :
    TextOf [smallEntry, storeEntry, emptyEntry]
      "n: 2\r\n # n=3\n uri\t=file:///s=1 \r\nn".toList := by
  have hnone : Gap [] := ⟨rfl, oneLine_nil⟩
  have hspace : Gap [' '] := ⟨by decide, by decide⟩
  have htab : Gap ['\t'] := ⟨by decide, by decide⟩
  have hsmall : RowOf [smallEntry] "n: 2".toList := .entry hnone hnone hspace hnone (.inr rfl)
  have hrest : OneLine " n=3".toList := by decide
  have hcomment : RowOf [] " # n=3".toList := .comment hspace (.inl rfl) hrest
  have hstore : RowOf [storeEntry] " uri\t=file:///s=1 ".toList :=
    .entry hspace htab hnone hspace (.inl rfl)
  have hempty : RowOf [emptyEntry] "n".toList := .keyOnly hnone hnone rfl
  exact .line hsmall .returnFeed (.line hcomment .feed (.line hstore .carriageReturn
    (.line (.blank hnone) .feed (.last hempty))))

theorem ofOctets_written_sample :
    ∃ s, ofOctets (Utf8.encode "n: 2\r\n # n=3\n uri\t=file:///s=1 \r\nn".toList) = .ok s ∧
      s.get? "uri" = some "file:///s=1" ∧ s.get? "n" = some "" := by
  obtain ⟨s, hs, hget⟩ := ofOctets_written textOf_sample
  have hstore : LastValue ([smallEntry, storeEntry, emptyEntry].map Entry.pair) "uri"
      "file:///s=1" := ⟨[smallEntry.pair], [emptyEntry.pair], rfl, by decide⟩
  have hempty : LastValue ([smallEntry, storeEntry, emptyEntry].map Entry.pair) "n" "" :=
    ⟨[smallEntry.pair, storeEntry.pair], [], rfl, nofun⟩
  exact ⟨s, hs, (hget _ _).2 hstore, (hget _ _).2 hempty⟩

end Settings
end CatalogScout
