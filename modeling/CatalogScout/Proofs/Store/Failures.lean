import CatalogScout.Proofs.Store.Confinement
import CatalogScout.Proofs.Store.Scheme

/-!
How lookups fail.

A lookup fails for one of four reasons, and `Comes` tells which by the address and the tree: the
address cannot be read, it has no scheme or no path, nothing is registered for its scheme, or there
is no marker at its path or above.  The last three have failures of their own kinds.  An address
that cannot be read fails with a bad value instead, and what cannot be read about it is its
authority, which no store uses.
-/

namespace CatalogScout

/-! ## Addresses that cannot be read -/

namespace Uri

/-- What stands behind the two slashes of an address, as far as the path. -/
def authorityOf (s : List Char) : List Char := (cutAuthority (cutScheme (cleaned s)).2).1

/-- There is a square bracket in the authority. -/
def Bracketed (authority : List Char) : Prop := '[' ∈ authority ∨ ']' ∈ authority

/-- There are opening brackets in the authority and no closing ones, or the other way around. -/
def Unbalanced (authority : List Char) : Prop := ¬('[' ∈ authority ↔ ']' ∈ authority)

/-- A character of the authority hides a separator. -/
def HidesSeparator (authority : List Char) : Prop :=
  ∃ c ∈ authority, c.toNat ∈ foreignSeparators

section

variable {authority s : List Char} {fault : Fault}

theorem bracketed_of_checkBrackets (h : checkBrackets authority = .error fault) :
    Bracketed authority := by
  by_contra hnone
  obtain ⟨hopen, hclose⟩ := not_or.1 hnone
  have hok : checkBrackets authority = .ok () := by simp [checkBrackets, hopen, hclose]
  rw [hok] at h
  cases h

theorem checkBrackets_of_unbalanced (h : Unbalanced authority) :
    checkBrackets authority = .error .brackets := by
  have hdiffer : (authority.contains '[' != authority.contains ']') = true := by
    rw [bne_iff_ne, Ne, Bool.eq_iff_iff, List.contains_iff_mem, List.contains_iff_mem]
    exact h
  rw [checkBrackets, if_pos hdiffer]

theorem checkSeparators_error_iff :
    (∃ fault, checkSeparators authority = .error fault) ↔ HidesSeparator authority := by
  have hiff : (authority.any fun c => foreignSeparators.contains c.toNat) = true ↔
      HidesSeparator authority := by
    simp only [List.any_eq_true, List.contains_iff_mem]
    exact Iff.rfl
  rw [checkSeparators]
  split
  · next hhides => exact ⟨fun _ => hiff.1 hhides, fun _ => ⟨_, rfl⟩⟩
  · next hnone =>
    constructor
    · rintro ⟨fault, hfault⟩
      cases hfault
    · exact fun hhides => absurd (hiff.2 hhides) hnone

/-- Only the checks of the authority can fail. -/
theorem exists_parse_eq (s : List Char) :
    ∃ address, parse s = (do
      checkBrackets (authorityOf s)
      checkSeparators (authorityOf s)
      return address) :=
  ⟨_, rfl⟩

theorem parse_error_iff (s : List Char) :
    (∃ fault, parse s = .error fault) ↔
      (∃ fault, checkBrackets (authorityOf s) = .error fault) ∨
        ∃ fault, checkSeparators (authorityOf s) = .error fault := by
  obtain ⟨address, hparse⟩ := exists_parse_eq s
  rw [hparse]
  cases checkBrackets (authorityOf s) with
  | error fault => exact ⟨fun _ => Or.inl ⟨fault, rfl⟩, fun _ => ⟨fault, rfl⟩⟩
  | ok _ =>
    cases checkSeparators (authorityOf s) with
    | error fault => exact ⟨fun _ => Or.inr ⟨fault, rfl⟩, fun _ => ⟨fault, rfl⟩⟩
    | ok _ =>
      constructor
      · rintro ⟨fault, hfault⟩
        cases hfault
      · rintro (⟨fault, hfault⟩ | ⟨fault, hfault⟩)
        · cases hfault
        · cases hfault

/-- A bad authority has brackets or hides a separator. -/
theorem bracketed_or_hides_of_parse (h : parse s = .error fault) :
    Bracketed (authorityOf s) ∨ HidesSeparator (authorityOf s) := by
  rcases (parse_error_iff s).1 ⟨fault, h⟩ with ⟨_, hbrackets⟩ | hseparators
  · exact Or.inl (bracketed_of_checkBrackets hbrackets)
  · exact Or.inr (checkSeparators_error_iff.1 hseparators)

theorem exists_fault_of_bad (h : Unbalanced (authorityOf s) ∨ HidesSeparator (authorityOf s)) :
    ∃ fault, parse s = .error fault := by
  rw [parse_error_iff]
  rcases h with hunbalanced | hhides
  · exact Or.inl ⟨_, checkBrackets_of_unbalanced hunbalanced⟩
  · exact Or.inr (checkSeparators_error_iff.2 hhides)

end

end Uri

/-! ## All that a lookup can come to -/

namespace TreeStore

/-- In a tree whose settings files are text every node has settings. -/
theorem settings_ok {t : FileTree} (h : ConfigClient.TextTree t) (root node : Path) :
    ∃ answer, settings t root node = .ok answer := by
  have hown : ∀ d ∈ chain root node, ∃ own, ownSettings t d = .ok own := by
    intro d _
    by_cases hsome : ∃ octets, t.file? (d.child settingsName) = some octets
    · obtain ⟨octets, hfile⟩ := hsome
      obtain ⟨here, -, hentry⟩ := (file?_child (by decide) (by decide) d octets).1 hfile
      obtain ⟨text, rfl⟩ := h here octets hentry
      exact ⟨_, ownSettings_of_text hfile⟩
    · exact ⟨∅, ownSettings_of_none hsome⟩
  obtain ⟨answer, hanswer, -⟩ := foldlM_ok (chain root node) ∅ hown
  exact ⟨answer, hanswer⟩

theorem rootOf_error {t : FileTree} {path : Path} {failure : Failure}
    (h : rootOf t path = .error failure) :
    failure = .noStore path.text ∧ ∀ p ∈ path.ancestry, hasMarker t p = false := by
  rw [rootOf] at h
  split at h
  · cases h
  · next hnone =>
    refine ⟨(Except.error.inj h).symm, fun p hp => ?_⟩
    simpa using List.find?_eq_none.1 hnone p hp

end TreeStore

namespace ConfigClient

open TreeStore Text

/-- What can come of looking up an address in a tree of text, and when. -/
inductive Comes (t : FileTree) (uri : String) : Except Failure Settings → Prop where
  | unreadable {fault : Uri.Fault} (hparse : Uri.parse uri.toList = .error fault) :
      Comes t uri (.error (.badUri fault))
  | malformed {address : Uri} (hparse : Uri.parse uri.toList = .ok address)
      (hpart : address.scheme = [] ∨ address.path = []) :
      Comes t uri (.error (.malformedUri uri))
  | unknown {scheme : String} {path : Path} (htarget : target uri = .ok (scheme, path))
      (hscheme : scheme ≠ "file") : Comes t uri (.error (.unknownScheme scheme))
  | unmarked {path : Path} (htarget : target uri = .ok ("file", path))
      (hnone : ∀ p ∈ path.ancestry, hasMarker t p = false) :
      Comes t uri (.error (.noStore path.text))
  | found {path root : Path} {answer : Settings} (htarget : target uri = .ok ("file", path))
      (hroot : root ∈ path.ancestry) (hmarker : hasMarker t root = true)
      (hanswer : TreeStore.lookup t path = .ok answer) : Comes t uri (.ok answer)

theorem lookup_comes {t : FileTree} (h : TextTree t) (uri : String) :
    Comes t uri (lookup t uri) := by
  cases hparse : Uri.parse uri.toList with
  | error fault =>
    have htarget : target uri = .error (.badUri fault) := by rw [target, hparse]
    simp only [lookup, htarget]
    exact .unreadable hparse
  | ok address =>
    have htarget := target_of_parse hparse
    by_cases hpart : address.scheme = [] ∨ address.path = []
    · have hempty : (address.scheme.isEmpty || address.path.isEmpty) = true := by
        simpa using hpart
      rw [hempty, if_pos rfl] at htarget
      simp only [lookup, htarget]
      exact .malformed hparse hpart
    · have hempty : (address.scheme.isEmpty || address.path.isEmpty) = false := by
        simpa using hpart
      rw [hempty, if_neg Bool.false_ne_true] at htarget
      by_cases hscheme : String.ofList address.scheme = "file"
      · rw [hscheme] at htarget
        rw [lookup_of_target htarget]
        cases hroot : rootOf t (Path.ofText address.path) with
        | error failure =>
          obtain ⟨rfl, hnone⟩ := rootOf_error hroot
          rw [TreeStore.lookup, hroot]
          exact .unmarked htarget hnone
        | ok root =>
          obtain ⟨hmem, hmarker⟩ := marked_of_rootOf hroot
          obtain ⟨answer, hsettings⟩ := settings_ok h root
            ⟨.relative, (Path.ofText address.path).segments.drop root.segments.length⟩
          have hanswer : TreeStore.lookup t (Path.ofText address.path) = .ok answer := by
            rw [TreeStore.lookup, hroot]
            exact hsettings
          rw [hanswer]
          exact .found htarget hmem hmarker hanswer
      · simp only [lookup, htarget, if_neg hscheme]
        exact .unknown htarget hscheme

/-- The kinds of failure that a lookup is documented to end with. -/
def storeFailures : List String :=
  ["MalformedConfigUriError", "ConfigStoreFactoryDoesNotExistError", "ConfigStoreCreationError"]

theorem Comes.kindName {t : FileTree} {uri : String} {failure : Failure}
    (h : Comes t uri (.error failure)) :
    failure.kindName ∈ storeFailures ∨
      failure.kindName = "ValueError" ∧ ∃ fault, Uri.parse uri.toList = .error fault := by
  cases h with
  | unreadable hparse => exact Or.inr ⟨rfl, _, hparse⟩
  | malformed hparse hpart => exact Or.inl (by simp [Failure.kindName, storeFailures])
  | unknown htarget hscheme => exact Or.inl (by simp [Failure.kindName, storeFailures])
  | unmarked htarget hnone => exact Or.inl (by simp [Failure.kindName, storeFailures])

/-- In a tree whose settings files are text, and whatever was looked up before, an address is
answered with settings or with one of three kinds of failure, each for its own reason, unless the
address cannot be read: then, and only then, the failure is a bad value.  An address that cannot be
read has a square bracket in its authority or a character that hides a separator; if there is no
closing bracket to the opening ones, or the other way around, or if a separator is hidden, it cannot
be read.  So a lookup fails as documented wherever the authority has neither. -/
theorem lookup_failures {t : FileTree} (h : TextTree t) (lookups : List (FileTree × String))
    (uri : String) :
    Comes t uri (answerTo lookups uri t) ∧
      (∀ failure, answerTo lookups uri t = .error failure →
        failure.kindName ∈ storeFailures ∨
          failure.kindName = "ValueError" ∧ ∃ fault, Uri.parse uri.toList = .error fault) ∧
      (∀ fault, Uri.parse uri.toList = .error fault →
        answerTo lookups uri t = .error (.badUri fault) ∧
        (Uri.Bracketed (Uri.authorityOf uri.toList) ∨
          Uri.HidesSeparator (Uri.authorityOf uri.toList))) ∧
      (Uri.Unbalanced (Uri.authorityOf uri.toList) ∨
          Uri.HidesSeparator (Uri.authorityOf uri.toList) →
        ∃ fault, Uri.parse uri.toList = .error fault) ∧
      (¬Uri.Bracketed (Uri.authorityOf uri.toList) →
        ¬Uri.HidesSeparator (Uri.authorityOf uri.toList) →
        (∃ settings, answerTo lookups uri t = .ok settings) ∨
          ∃ failure, answerTo lookups uri t = .error failure ∧
            failure.kindName ∈ storeFailures) := by
  have hcomes : Comes t uri (answerTo lookups uri t) := by
    rw [answerTo_eq_lookup]
    exact lookup_comes h uri
  refine ⟨hcomes, ?_, ?_, Uri.exists_fault_of_bad, ?_⟩
  · intro failure hfailure
    rw [hfailure] at hcomes
    exact hcomes.kindName
  · intro fault hparse
    refine ⟨?_, Uri.bracketed_or_hides_of_parse hparse⟩
    rw [answerTo_eq_lookup, lookup, target, hparse]
  · intro hbrackets hseparators
    cases hanswer : answerTo lookups uri t with
    | ok settings => exact Or.inl ⟨settings, rfl⟩
    | error failure =>
      right
      rw [hanswer] at hcomes
      rcases hcomes.kindName with hkind | ⟨-, fault, hparse⟩
      · exact ⟨failure, rfl, hkind⟩
      · rcases Uri.bracketed_or_hides_of_parse hparse with hbracketed | hhides
        · exact absurd hbracketed hbrackets
        · exact absurd hhides hseparators

/-- An opening bracket is enough for a failure of another kind. -/
theorem bracket_is_bad_value :
    TextTree FileTree.empty ∧
      answerTo [] "file://[::1/store" FileTree.empty = .error (.badUri .brackets) ∧
      (Failure.badUri .brackets).kindName = "ValueError" ∧
      (Failure.badUri .brackets).kindName ∉ storeFailures :=
  ⟨textTree_empty, rfl, rfl, by decide⟩

theorem lookup_failures_of_host :
    TextTree FileTree.empty ∧ ¬Uri.Bracketed (Uri.authorityOf "file://host/store".toList) ∧
      ¬Uri.HidesSeparator (Uri.authorityOf "file://host/store".toList) ∧
      Uri.Unbalanced (Uri.authorityOf "file://[::1/store".toList) ∧
      (∃ fault, Uri.parse "file://[::1/store".toList = .error fault ∧
        answerTo [] "file://[::1/store" FileTree.empty = .error (.badUri fault)) ∧
      ∃ failure, answerTo [] "file://host/store" FileTree.empty = .error failure ∧
        failure.kindName ∈ storeFailures := by
  have hauthority : Uri.authorityOf "file://host/store".toList = "host".toList := rfl
  have hopened : Uri.authorityOf "file://[::1/store".toList = "[::1".toList := rfl
  have hbrackets : ¬Uri.Bracketed (Uri.authorityOf "file://host/store".toList) := by
    rw [hauthority]
    rintro (hopen | hclose)
    · exact absurd hopen (by decide)
    · exact absurd hclose (by decide)
  have hseparators : ¬Uri.HidesSeparator (Uri.authorityOf "file://host/store".toList) := by
    rw [hauthority]
    rintro ⟨c, hc, hhides⟩
    obtain rfl | rfl | rfl | rfl : c = 'h' ∨ c = 'o' ∨ c = 's' ∨ c = 't' := by simpa using hc
    all_goals exact absurd hhides (by decide)
  have hunbalanced : Uri.Unbalanced (Uri.authorityOf "file://[::1/store".toList) := by
    rw [hopened]
    intro hiff
    exact absurd (hiff.1 (by decide)) (by decide)
  obtain ⟨-, -, -, -, hplain⟩ := lookup_failures textTree_empty [] "file://host/store"
  obtain ⟨-, -, hread, hbad, -⟩ := lookup_failures textTree_empty [] "file://[::1/store"
  obtain ⟨fault, hfault⟩ := hbad (Or.inl hunbalanced)
  refine ⟨textTree_empty, hbrackets, hseparators, hunbalanced, ⟨fault, hfault, (hread _ hfault).1⟩,
    ?_⟩
  rcases hplain hbrackets hseparators with ⟨settings, hsettings⟩ | hfails
  · have hnone : answerTo [] "file://host/store" FileTree.empty = .error (.noStore "/store") := rfl
    rw [hnone] at hsettings
    cases hsettings
  · exact hfails

end ConfigClient
end CatalogScout
