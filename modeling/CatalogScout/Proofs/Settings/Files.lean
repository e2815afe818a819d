import CatalogScout.Proofs.Text.Utf8
import CatalogScout.Settings.Properties

/-!
The settings that a file holds, told by its entries.
-/

namespace CatalogScout
namespace Settings

open Text

/-- The last entry with the key has the value. -/
def LastValue (entries : List (String × String)) (key value : String) : Prop :=
  ∃ before behind, entries = before ++ (key, value) :: behind ∧ ∀ e ∈ behind, e.1 ≠ key

theorem lastValue?_eq_some_iff {entries : List (String × String)} {key value : String} :
    lastValue? entries key = some value ↔ LastValue entries key value := by
  rw [lastValue?, Option.map_eq_some_iff]
  constructor
  · rintro ⟨e, he, rfl⟩
    obtain ⟨hkey, behind, before, hsplit, hbehind⟩ := List.find?_eq_some_iff_append.1 he
    obtain rfl : e.1 = key := by simpa using hkey
    refine ⟨before.reverse, behind.reverse, ?_, fun x hx => ?_⟩
    · rw [← List.reverse_inj, hsplit]
      simp
    · simpa using hbehind x (List.mem_reverse.1 hx)
  · rintro ⟨before, behind, rfl, hbehind⟩
    refine ⟨(key, value), List.find?_eq_some_iff_append.2 ⟨by simp, ?_⟩, rfl⟩
    refine ⟨behind.reverse, before.reverse, by simp, fun x hx => ?_⟩
    simpa using hbehind x (List.mem_reverse.1 hx)

/-- The entries of a text, line by line. -/
def entriesOf (text : List Char) : List (String × String) :=
  (lines (unifyNewlines text)).filterMap entryOfLine?

theorem get?_ofText {text : List Char} {key value : String} :
    (ofText text).get? key = some value ↔ LastValue (entriesOf text) key value := by
  rw [ofText, ofLines, get?_ofList]
  exact lastValue?_eq_some_iff

/-- A file that is text holds the settings of the text. -/
theorem ofOctets_encode (text : List Char) : ofOctets (Utf8.encode text) = .ok (ofText text) := by
  rw [ofOctets, (Utf8.decode_eq_ok_iff _ text).2 rfl]

theorem ofOctets_of_not_text {octets : List UInt8} (h : ¬∃ text, octets = Utf8.encode text) :
    ∃ fault, ofOctets octets = .error (.undecodable octets fault) := by
  cases hdecode : Utf8.decode octets with
  | ok text => exact absurd ⟨text, (Utf8.decode_eq_ok_iff octets text).1 hdecode⟩ h
  | error fault => exact ⟨fault, by rw [ofOctets, hdecode]⟩

end Settings
end CatalogScout
