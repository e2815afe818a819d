import CatalogScout.Dataset
import CatalogScout.Proofs.Text.Trim
import Mathlib.Data.List.Basic

/-!
Written names of tables, and which of them are read back.

A text is trimmed before it is parted at its dots, so what is read is the pair whose written form is
the trimmed text.  The blanks between the two parts are not trimmed.  So a name is read back if
neither part is empty or has a dot in it and if trimming leaves its written form alone, and these
are the only names that are ever read.
-/

namespace CatalogScout

open Text

namespace TableName

/-- There is something on both sides of the dot, and there is no other dot. -/
structure TwoParts (n : TableName) : Prop where
  db_ne : n.db ≠ ""
  table_ne : n.table ≠ ""
  dot_not_mem_db : '.' ∉ n.db.toList
  dot_not_mem_table : '.' ∉ n.table.toList

/-- A name of two parts with no blank in front of the first and none behind the second. -/
structure Readable (n : TableName) : Prop extends TwoParts n where
  first : ∀ c ∈ n.db.toList.head?, isBlank c = false
  last : ∀ c ∈ n.table.toList.getLast?, isBlank c = false

theorem text_toList (n : TableName) : n.text.toList = n.db.toList ++ '.' :: n.table.toList := by
  rw [text, String.toList_append, String.toList_append, List.append_assoc]
  rfl

/-! ## Reading -/

/-- The two fields of a trimmed text. -/
theorem parse_eq_ok_iff {s : String} {n : TableName} :
    parse s = .ok n ↔ n.TwoParts ∧ n.text = trimmed s := by
  constructor
  · intro h
    unfold parse at h
    split at h
    · next db table hfields =>
      split at h
      · cases h
      · next hempty =>
        simp only [Bool.or_eq_true, List.isEmpty_iff, not_or] at hempty
        cases h
        have hdb : '.' ∉ db := not_mem_of_mem_fields (hfields ▸ List.mem_cons_self)
        have htable : '.' ∉ table :=
          not_mem_of_mem_fields (hfields ▸ List.mem_cons_of_mem _ List.mem_cons_self)
        refine ⟨⟨?_, ?_, ?_, ?_⟩, ?_⟩
        · simpa using hempty.1
        · simpa using hempty.2
        · simpa using hdb
        · simpa using htable
        · have htrim := intercalate_fields '.' (trim s.toList)
          rw [hfields, List.intercalate_cons_of_ne_nil (List.cons_ne_nil _ _),
            List.intercalate_singleton, List.append_assoc] at htrim
          rw [← String.toList_inj, text_toList, trimmed, String.toList_ofList, ← htrim]
          simp
    · cases h
  · rintro ⟨hparts, htext⟩
    have hfields : fields '.' (trim s.toList) = [n.db.toList, n.table.toList] := by
      rw [← String.toList_ofList (l := trim s.toList), ← trimmed, ← htext, text_toList,
        fields_append_sep hparts.dot_not_mem_db, fields_of_not_mem hparts.dot_not_mem_table]
    have hdb : n.db.toList.isEmpty = false := by simpa using hparts.db_ne
    have htable : n.table.toList.isEmpty = false := by simpa using hparts.table_ne
    simp [parse, hfields, hdb, htable]

theorem parse_error {s : String} {failure : Failure} (h : parse s = .error failure) :
    failure = .notATableName := by
  unfold parse at h
  split at h
  · split at h
    · exact (Except.error.inj h).symm
    · cases h
  · exact (Except.error.inj h).symm

/-- Only the outer ends of a written name are trimmed. -/
theorem trimmed_text_iff {n : TableName} (h : n.TwoParts) :
    n.text = trimmed n.text ↔ n.Readable := by
  have hdb : n.db.toList ≠ [] := by simpa using h.db_ne
  have htable : n.table.toList ≠ [] := by simpa using h.table_ne
  have hhead : n.text.toList.head? = n.db.toList.head? := by
    rw [text_toList, List.head?_append_of_ne_nil _ hdb]
  have hlast : n.text.toList.getLast? = n.table.toList.getLast? := by
    rw [text_toList, List.append_cons, List.getLast?_append_of_ne_nil _ htable]
  have hends : n.text = trimmed n.text ↔ NoBlankEnds n.text.toList := by
    rw [← trim_eq_self_iff, ← String.toList_inj, trimmed, String.toList_ofList]
    exact eq_comm
  rw [hends]
  constructor
  · rintro ⟨hfirst, hfinal⟩
    rw [hhead] at hfirst
    rw [hlast] at hfinal
    exact ⟨h, hfirst, hfinal⟩
  · rintro ⟨-, hfirst, hfinal⟩
    rw [← hhead] at hfirst
    rw [← hlast] at hfinal
    exact ⟨hfirst, hfinal⟩

theorem parse_text_iff {n : TableName} : parse n.text = .ok n ↔ n.Readable := by
  rw [parse_eq_ok_iff]
  constructor
  · rintro ⟨hparts, htext⟩
    exact (trimmed_text_iff hparts).1 htext
  · intro h
    exact ⟨h.toTwoParts, (trimmed_text_iff h.toTwoParts).2 h⟩

/-- What is read is written as the trimmed text, which is read the same. -/
theorem readable_of_parse {s : String} {n : TableName} (h : parse s = .ok n) : n.Readable := by
  obtain ⟨hparts, htext⟩ := parse_eq_ok_iff.1 h
  refine (trimmed_text_iff hparts).1 ?_
  rw [htext, trimmed, trimmed, String.toList_ofList, trim_trim]

/-- A name is read back from its written form exactly if both parts have characters, neither has a
dot, the first does not begin with a blank and the second does not end with one; from the written
form of any other name a different one is read or none, which is told as a bad value.  Whatever text
a name is read from, the name is written as the trimmed text and read back from that.  So no two of
the names that can be read are written alike, and no two datasets with such names have one urn. -/
theorem names_read_back :
    (∀ n : TableName, parse n.text = .ok n ↔ n.Readable) ∧
    (∀ n : TableName, ¬n.Readable →
      (∃ failure, parse n.text = .error failure ∧ failure.kindName = "ValueError") ∨
        ∃ other, parse n.text = .ok other ∧ other ≠ n) ∧
    (∀ s n, parse s = .ok n → n.text = trimmed s ∧ parse n.text = .ok n) ∧
    (∀ n other : TableName, (∃ s, parse s = .ok n) → (∃ s, parse s = .ok other) →
      n.text = other.text → n = other) ∧
    ∀ (Handle : Type) (d other : Dataset Handle), (∃ s, parse s = .ok d.name) →
      (∃ s, parse s = .ok other.name) → d.urn = other.urn → d.name = other.name := by
  have hback : ∀ s n, parse s = .ok n → parse n.text = .ok n := fun s n h =>
    parse_text_iff.2 (readable_of_parse h)
  have hinj : ∀ n other : TableName, (∃ s, parse s = .ok n) → (∃ s, parse s = .ok other) →
      n.text = other.text → n = other := by
    rintro n other ⟨s, hs⟩ ⟨s', hs'⟩ htext
    have hn := hback s n hs
    rw [htext, hback s' other hs'] at hn
    exact (Except.ok.inj hn).symm
  refine ⟨fun n => parse_text_iff, ?_, ?_, hinj, ?_⟩
  · intro n hn
    cases hparse : parse n.text with
    | error failure =>
      left
      refine ⟨failure, rfl, ?_⟩
      rw [parse_error hparse]
      rfl
    | ok other =>
      right
      refine ⟨other, rfl, ?_⟩
      rintro rfl
      exact hn (parse_text_iff.1 hparse)
  · intro s n h
    exact ⟨(parse_eq_ok_iff.1 h).2, hback s n h⟩
  · intro Handle d other
    exact hinj d.name other.name

theorem names_read_back_of_blanks :
    (⟨"sales ", " daily"⟩ : TableName).Readable ∧
      parse "sales . daily" = .ok ⟨"sales ", " daily"⟩ ∧
      ¬(⟨" sales", "daily"⟩ : TableName).Readable ∧
      (∃ other, parse " sales.daily" = .ok other ∧ other ≠ ⟨" sales", "daily"⟩) ∧
      parse " sales.daily\n" = .ok ⟨"sales", "daily"⟩ ∧
      parse "sales.daily" = .ok ⟨"sales", "daily"⟩ := by
  obtain ⟨hiff, hother, hwritten, -⟩ := names_read_back
  have hreadable : (⟨"sales ", " daily"⟩ : TableName).Readable := by
    refine ⟨⟨by decide, by decide, by decide, by decide⟩, ?_, ?_⟩
    · intro c hc
      obtain rfl : 's' = c := Option.some.inj hc
      rfl
    · intro c hc
      obtain rfl : 'y' = c := Option.some.inj hc
      rfl
  have hblank : ¬(⟨" sales", "daily"⟩ : TableName).Readable := by
    intro h
    exact absurd (h.first ' ' (by decide)) (by decide)
  have hread : parse " sales.daily\n" = .ok ⟨"sales", "daily"⟩ := by rfl
  refine ⟨hreadable, (hiff _).2 hreadable, hblank, ?_, hread, (hwritten _ _ hread).2⟩
  rcases hother _ hblank with ⟨failure, herror, -⟩ | hok
  · have hsome : parse (⟨" sales", "daily"⟩ : TableName).text = .ok ⟨"sales", "daily"⟩ := by rfl
    rw [hsome] at herror
    cases herror
  · exact hok

end TableName
end CatalogScout
