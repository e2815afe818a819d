import CatalogScout.Proofs.Settings.Files
import CatalogScout.Proofs.Store.Address
import CatalogScout.Proofs.Store.Client

/-!
The settings of a node, told by the files on the way down to it.

The directories on the way are counted from the top, which is number zero.  The store is the one
of the last marked directory, and of the settings files from there on the last one with a key has
the say over it.
-/

namespace CatalogScout

open Text

namespace Path

/-- The directory after so many segments on the way down a path. -/
def upper (p : Path) (i : Nat) : Path := { p with segments := p.segments.take i }

theorem beginnings_eq {α : Type} (s : List α) :
    beginnings s = (List.range (s.length + 1)).map fun i => s.take i := by
  induction s with
  | nil => rfl
  | cons a r ih =>
    rw [beginnings, ih, List.length_cons, List.range_succ_eq_map (n := r.length + 1), List.map_cons,
      List.map_map, List.map_map]
    rfl

theorem ancestry_eq (p : Path) :
    p.ancestry = (List.range (p.segments.length + 1)).reverse.map p.upper := by
  rw [ancestry, beginnings_eq, ← List.map_reverse, List.map_map]
  rfl

theorem below?_upper (p : Path) (k : Nat) :
    p.below? (p.upper k) = some ⟨.relative, p.segments.drop (min k p.segments.length)⟩ := by
  rw [below?, if_pos ⟨rfl, List.take_prefix k p.segments⟩]
  simp [upper, List.length_take]

end Path

/-! ## The greatest number with a property -/

def Greatest (p : Nat → Prop) (n k : Nat) : Prop := k ≤ n ∧ p k ∧ ∀ i, k < i → i ≤ n → ¬p i

theorem Greatest.congr {p q : Nat → Prop} {n k : Nat} (h : ∀ i ≤ n, p i ↔ q i)
    (hk : Greatest p n k) : Greatest q n k :=
  ⟨hk.1, (h k hk.1).1 hk.2.1, fun i hi hin hq => hk.2.2 i hi hin ((h i hin).2 hq)⟩

theorem Greatest.unique {p : Nat → Prop} {n k k' : Nat} (h : Greatest p n k)
    (h' : Greatest p n k') : k = k' := by
  rcases Nat.lt_trichotomy k k' with hlt | heq | hgt
  · exact absurd h'.2.1 (h.2.2 k' hlt h'.1)
  · exact heq
  · exact absurd h.2.1 (h'.2.2 k hgt h.1)

/-- Counting may begin at a number further down. -/
theorem greatest_add_iff {p : Nat → Prop} {n k j : Nat} (hk : k ≤ n) :
    Greatest (fun i => p (k + i)) (n - k) j ↔ Greatest (fun i => k ≤ i ∧ p i) n (k + j) := by
  constructor
  · rintro ⟨hj, hp, hlast⟩
    refine ⟨by omega, ⟨by omega, hp⟩, fun i hi hin hpi => ?_⟩
    refine hlast (i - k) (by omega) (by omega) ?_
    show p (k + (i - k))
    rw [Nat.add_sub_cancel' hpi.1]
    exact hpi.2
  · rintro ⟨hj, ⟨-, hp⟩, hlast⟩
    exact ⟨by omega, hp, fun i hi hin hpi => hlast (k + i) (by omega) (by omega) ⟨by omega, hpi⟩⟩

theorem findSome?_range_reverse {α : Type} {n : Nat} {f : Nat → Option α} {a : α} :
    (List.range (n + 1)).reverse.findSome? f = some a ↔
      ∃ j, Greatest (fun i => f i ≠ none) n j ∧ f j = some a := by
  rw [List.findSome?_range_reverse_eq_some_iff]
  constructor
  · rintro ⟨j, hj, hja, hlast⟩
    refine ⟨j, ⟨by omega, by simp [hja], fun i hi hin => ?_⟩, hja⟩
    simpa using hlast i hi (by omega)
  · rintro ⟨j, ⟨hj, -, hlast⟩, hja⟩
    refine ⟨j, by omega, hja, fun i hi hin => ?_⟩
    simpa using hlast i hi (by omega)

namespace TreeStore

variable {t : FileTree}

/-! ## The nearest marked directory -/

theorem find?_eq_some_iff_greatest {p : Path} {k : Nat} :
    (List.range (p.segments.length + 1)).reverse.find? (hasMarker t ∘ p.upper) = some k ↔
      Greatest (fun i => hasMarker t (p.upper i) = true) p.segments.length k := by
  rw [List.find?_eq_findSome?_guard, findSome?_range_reverse]
  simp only [Option.guard_eq_some_iff, ne_eq, Option.guard_eq_none_iff, Function.comp_apply,
    Bool.not_eq_false]
  constructor
  · rintro ⟨j, hj, rfl, -⟩
    exact hj
  · intro hk
    exact ⟨k, hk, rfl, hk.2.1⟩

theorem rootOf_of_nearest {p : Path} {k : Nat}
    (h : Greatest (fun i => hasMarker t (p.upper i) = true) p.segments.length k) :
    rootOf t p = .ok (p.upper k) := by
  rw [rootOf, Path.ancestry_eq, List.find?_map, find?_eq_some_iff_greatest.2 h]
  rfl

/-- Of marked directories one is the nearest. -/
theorem exists_greatest {p : Path} {i : Nat} (hi : i ≤ p.segments.length)
    (h : hasMarker t (p.upper i) = true) :
    ∃ k, Greatest (fun i => hasMarker t (p.upper i) = true) p.segments.length k := by
  cases hfind : (List.range (p.segments.length + 1)).reverse.find? (hasMarker t ∘ p.upper) with
  | some k => exact ⟨k, find?_eq_some_iff_greatest.1 hfind⟩
  | none =>
    rw [List.find?_eq_none] at hfind
    exact absurd h (hfind i (List.mem_reverse.2 (List.mem_range.2 (by omega))))

theorem rootOf_of_unmarked {p : Path}
    (h : ∀ i ≤ p.segments.length, hasMarker t (p.upper i) = false) :
    rootOf t p = .error (.noStore p.text) := by
  have hfind : p.ancestry.find? (hasMarker t) = none := by
    rw [List.find?_eq_none, Path.ancestry_eq]
    intro d hd
    obtain ⟨i, hi, rfl⟩ := List.mem_map.1 hd
    rw [List.mem_reverse, List.mem_range] at hi
    rw [h i (by omega)]
    exact Bool.false_ne_true
  rw [rootOf, hfind]

theorem locate?_child (p : Path) (segment : String) :
    t.locate? (p.child segment) = (t.locate? p).bind fun here => t.follow here segment := by
  rw [FileTree.locate?, Path.child, List.foldlM_append]
  simp only [List.foldlM_cons, List.foldlM_nil, bind_pure]
  rfl

/-- A file in the directory that a path leads to. -/
theorem file?_child {name : String} (hdots : name ≠ "..")
    (hnul : '\x00' ∉ name.toList) (p : Path) (octets : List UInt8) :
    t.file? (p.child name) = some octets ↔
      ∃ here, t.locate? p = some here ∧ t.entry (here ++ [name]) = some (.file octets) := by
  have hlookup : t.lookup? (p.child name)
      = (t.locate? p).bind fun here => t.entry (here ++ [name]) := by
    rw [FileTree.lookup?, locate?_child, Option.bind_assoc]
    congr 1
    funext here
    rw [FileTree.follow, if_neg (by simpa using hnul), if_neg hdots, Option.bind_some]
  rw [FileTree.file?, hlookup]
  cases t.locate? p with
  | none => simp
  | some here =>
    simp only [Option.bind_some, Option.some.injEq, exists_eq_left']
    cases t.entry (here ++ [name]) with
    | none => simp
    | some e => cases e <;> simp

/-- A directory with a marker in it is a directory. -/
theorem isDirectory_of_hasMarker {p : Path} (h : hasMarker t p = true) :
    t.isDirectory p = true := by
  obtain ⟨octets, hfile⟩ := Option.isSome_iff_exists.1 h
  obtain ⟨here, hhere, hentry⟩ := (file?_child (by decide) (by decide) p octets).1 hfile
  have hsome : t.entry (here ++ [markerName]) ≠ none := by
    rw [hentry]
    exact nofun
  rw [FileTree.isDirectory, FileTree.lookup?, hhere, Option.bind_some,
    t.parent_directory here markerName hsome]
  rfl

/-! ## Settings along a way -/

theorem chain_eq (p : Path) (k : Nat) :
    chain (p.upper k) ⟨.relative, p.segments.drop k⟩
      = (List.range (p.segments.length - k + 1)).map fun i => p.upper (k + i) := by
  rw [chain, Path.beginnings_eq, List.map_map, List.length_drop]
  refine List.map_congr_left fun i _ => ?_
  show (⟨p.anchorage, p.segments.take k ++ (p.segments.drop k).take i⟩ : Path)
    = ⟨p.anchorage, p.segments.take (k + i)⟩
  rw [List.take_add]

/-- The value of a key in one directory, if the directory has it. -/
def ownValue? (t : FileTree) (key : String) (directory : Path) : Option String :=
  match ownSettings t directory with
  | .ok own => own.get? key
  | .error _ => none

theorem foldlM_error (directories : List Path) (s : Settings)
    (h : ∃ d ∈ directories, ∃ f, ownSettings t d = .error f) :
    ∃ d ∈ directories, ∃ f, ownSettings t d = .error f ∧
      directories.foldlM (fun s d => s.override <$> ownSettings t d) s = .error f := by
  induction directories generalizing s with
  | nil =>
    obtain ⟨d, hd, -⟩ := h
    exact absurd hd List.not_mem_nil
  | cons e directories ih =>
    cases he : ownSettings t e with
    | error f =>
      refine ⟨e, List.mem_cons_self, f, he, ?_⟩
      rw [List.foldlM_cons, he]
      rfl
    | ok own =>
      have hrest : ∃ d ∈ directories, ∃ f, ownSettings t d = .error f := by
        obtain ⟨d, hd, f, hf⟩ := h
        rcases List.mem_cons.1 hd with rfl | hd
        · rw [he] at hf
          cases hf
        · exact ⟨d, hd, f, hf⟩
      obtain ⟨d, hd, f, hf, hfold⟩ := ih (s.override own) hrest
      refine ⟨d, List.mem_cons_of_mem e hd, f, hf, ?_⟩
      rw [List.foldlM_cons, he]
      exact hfold

theorem foldlM_ok (directories : List Path) (s : Settings)
    (h : ∀ d ∈ directories, ∃ own, ownSettings t d = .ok own) :
    ∃ r, directories.foldlM (fun s d => s.override <$> ownSettings t d) s = .ok r ∧
      ∀ key, r.get? key = (directories.reverse.findSome? (ownValue? t key)).or (s.get? key) := by
  induction directories generalizing s with
  | nil => exact ⟨s, rfl, fun key => rfl⟩
  | cons e directories ih =>
    obtain ⟨own, he⟩ := h e List.mem_cons_self
    obtain ⟨r, hr, hget⟩ := ih (s.override own) fun d hd => h d (List.mem_cons_of_mem e hd)
    refine ⟨r, ?_, fun key => ?_⟩
    · rw [List.foldlM_cons, he]
      exact hr
    · have hown : ownValue? t key e = own.get? key := by rw [ownValue?, he]
      rw [hget, List.reverse_cons, List.findSome?_append, Settings.get?_override,
        List.findSome?_cons, hown, Option.or_assoc]
      cases own.get? key <;> rfl

theorem ownSettings_congr {t' : FileTree} {d : Path}
    (h : t'.file? (d.child settingsName) = t.file? (d.child settingsName)) :
    ownSettings t' d = ownSettings t d := by
  rw [ownSettings, ownSettings, h]

theorem merged_congr {t' : FileTree} {directories : List Path}
    (h : ∀ d ∈ directories, ownSettings t' d = ownSettings t d) :
    merged t' directories = merged t directories := by
  rw [merged, merged]
  generalize (∅ : Settings) = s
  induction directories generalizing s with
  | nil => rfl
  | cons d directories ih =>
    have hrest := ih fun e he => h e (List.mem_cons_of_mem d he)
    rw [List.foldlM_cons, List.foldlM_cons, h d List.mem_cons_self]
    exact bind_congr hrest

/-! ## Files on the way to a node -/

/-- The directory has a file of the name.  Nothing is found behind a name with a NUL in it. -/
def FileIn (t : FileTree) (directory : List String) (name : String) (octets : List UInt8) : Prop :=
  (∀ s ∈ directory, '\x00' ∉ s.toList) ∧ t.entry (directory ++ [name]) = some (.file octets)

/-- The directory after `i` segments has a marker. -/
def Marked (t : FileTree) (segments : List String) (i : Nat) : Prop :=
  ∃ octets, FileIn t (segments.take i) "_CONFIG_STORE" octets

/-- The directory after `j` segments has a settings file of these octets. -/
def Holds (t : FileTree) (segments : List String) (j : Nat) (octets : List UInt8) : Prop :=
  FileIn t (segments.take j) "main.conf" octets

/-- The settings file there defines the key, and the last of its values is this one. -/
def Defines (t : FileTree) (segments : List String) (j : Nat) (key value : String) : Prop :=
  ∃ text, Holds t segments j (Utf8.encode text) ∧
    Settings.LastValue (Settings.entriesOf text) key value

theorem foldlM_follow {segments : List String} (h : ∀ s ∈ segments, s ≠ "..") (here : List String) :
    segments.foldlM t.follow here
      = if ∀ s ∈ segments, '\x00' ∉ s.toList then some (here ++ segments) else none := by
  induction segments generalizing here with
  | nil => simp
  | cons s segments ih =>
    have hs := h s List.mem_cons_self
    rw [List.foldlM_cons]
    by_cases hnul : '\x00' ∈ s.toList
    · have hfollow : t.follow here s = none := by
        rw [FileTree.follow, if_pos (by simpa using hnul)]
      rw [hfollow]
      simp [hnul]
    · have hfollow : t.follow here s = some (here ++ [s]) := by
        rw [FileTree.follow, if_neg (by simpa using hnul), if_neg hs]
      rw [hfollow]
      show segments.foldlM t.follow (here ++ [s]) = _
      rw [ih fun r hr => h r (List.mem_cons_of_mem s hr)]
      simp [hnul]

section Ordinary

variable {segments : List String}

theorem file?_upper (h : ∀ s ∈ segments, Ordinary s) {name : String} (hdots : name ≠ "..")
    (hnul : '\x00' ∉ name.toList) (i : Nat) (octets : List UInt8) :
    t.file? (((⟨.absolute, segments⟩ : Path).upper i).child name) = some octets ↔
      FileIn t (segments.take i) name octets := by
  have hlocate : t.locate? ((⟨.absolute, segments⟩ : Path).upper i)
      = if ∀ s ∈ segments.take i, '\x00' ∉ s.toList then some (segments.take i) else none :=
    foldlM_follow (fun s hs => (h s (List.mem_of_mem_take hs)).2.2.1) []
  rw [file?_child hdots hnul, hlocate, FileIn]
  by_cases hclean : ∀ s ∈ segments.take i, '\x00' ∉ s.toList
  · rw [if_pos hclean, and_iff_right hclean]
    simp
  · rw [if_neg hclean]
    constructor
    · intro hnone
      obtain ⟨here, hhere, -⟩ := hnone
      cases hhere
    · intro hfile
      exact absurd hfile.1 hclean

theorem hasMarker_iff (h : ∀ s ∈ segments, Ordinary s) (i : Nat) :
    hasMarker t ((⟨.absolute, segments⟩ : Path).upper i) = true ↔ Marked t segments i := by
  rw [hasMarker, FileTree.isFile, Option.isSome_iff_exists, Marked]
  exact exists_congr fun octets => file?_upper h (by decide) (by decide) i octets

theorem conf_iff (h : ∀ s ∈ segments, Ordinary s) (j : Nat) (octets : List UInt8) :
    t.file? (((⟨.absolute, segments⟩ : Path).upper j).child settingsName) = some octets ↔
      Holds t segments j octets :=
  file?_upper h (by decide) (by decide) j octets

/-- The own settings of a directory are those of its file, if that is text. -/
theorem ownSettings_ok (h : ∀ s ∈ segments, Ordinary s) {j : Nat}
    (htext : ∀ octets, Holds t segments j octets → ∃ text, octets = Utf8.encode text) :
    ∃ own, ownSettings t ((⟨.absolute, segments⟩ : Path).upper j) = .ok own := by
  rw [ownSettings]
  cases hfile : t.file? (((⟨.absolute, segments⟩ : Path).upper j).child settingsName) with
  | none => exact ⟨∅, rfl⟩
  | some octets =>
    obtain ⟨text, rfl⟩ := htext octets ((conf_iff h j octets).1 hfile)
    exact ⟨_, Settings.ofOctets_encode text⟩

theorem ownSettings_error (h : ∀ s ∈ segments, Ordinary s) {j : Nat} {octets : List UInt8}
    (hfile : Holds t segments j octets) (htext : ¬∃ text, octets = Utf8.encode text) :
    ∃ f, ownSettings t ((⟨.absolute, segments⟩ : Path).upper j) = .error f := by
  obtain ⟨fault, hfault⟩ := Settings.ofOctets_of_not_text htext
  exact ⟨_, by rw [ownSettings, (conf_iff h j octets).2 hfile]; exact hfault⟩

/-- Whatever fails there is a failure to decode. -/
theorem kindName_of_ownSettings {d : Path} {f : Failure} (hf : ownSettings t d = .error f) :
    f.kindName = "UnicodeDecodeError" := by
  rw [ownSettings] at hf
  split at hf
  · cases hf
  · rw [Settings.ofOctets] at hf
    split at hf
    · cases hf
    · obtain rfl := Except.error.inj hf
      rfl

theorem ownValue?_iff (h : ∀ s ∈ segments, Ordinary s) {j : Nat} {key value : String} :
    ownValue? t key ((⟨.absolute, segments⟩ : Path).upper j) = some value ↔
      Defines t segments j key value := by
  rw [ownValue?, ownSettings]
  cases hfile : t.file? (((⟨.absolute, segments⟩ : Path).upper j).child settingsName) with
  | none =>
    constructor
    · intro hnone
      cases hnone
    · rintro ⟨text, hholds, -⟩
      rw [(conf_iff h j _).2 hholds] at hfile
      cases hfile
  | some octets =>
    have hholds := (conf_iff h j octets).1 hfile
    have hsame : ∀ {text}, Holds t segments j (Utf8.encode text) → octets = Utf8.encode text := by
      intro text htext
      exact Option.some.inj (hfile.symm.trans ((conf_iff h j _).2 htext))
    show (match Settings.ofOctets octets with
      | .ok own => own.get? key
      | .error _ => none) = some value ↔ _
    by_cases htext : ∃ text, octets = Utf8.encode text
    · obtain ⟨text, rfl⟩ := htext
      rw [Settings.ofOctets_encode]
      show (Settings.ofText text).get? key = some value ↔ _
      rw [Settings.get?_ofText]
      constructor
      · intro hlast
        exact ⟨text, hholds, hlast⟩
      · rintro ⟨text', hholds', hlast⟩
        rwa [Utf8.encode_inj (hsame hholds')]
    · obtain ⟨fault, hfault⟩ := Settings.ofOctets_of_not_text htext
      rw [hfault]
      constructor
      · intro hnone
        cases hnone
      · rintro ⟨text, hholds', -⟩
        exact absurd ⟨text, hsame hholds'⟩ htext

/-- The settings of a node below the nearest marked directory, from which the settings files on
the way are read. -/
def wayDown (t : FileTree) (segments : List String) (k : Nat) : Except Failure Settings :=
  merged t ((List.range (segments.length - k + 1)).map fun i =>
    (⟨.absolute, segments⟩ : Path).upper (k + i))

theorem wayDown_error (h : ∀ s ∈ segments, Ordinary s) {j k : Nat} (hkj : k ≤ j)
    (hj : j ≤ segments.length) {octets : List UInt8} (hfile : Holds t segments j octets)
    (htext : ¬∃ text, octets = Utf8.encode text) :
    ∃ f, wayDown t segments k = .error f ∧ f.kindName = "UnicodeDecodeError" := by
  have hmem : (⟨.absolute, segments⟩ : Path).upper j ∈
      (List.range (segments.length - k + 1)).map fun i =>
        (⟨.absolute, segments⟩ : Path).upper (k + i) := by
    refine List.mem_map.2 ⟨j - k, List.mem_range.2 (by omega), ?_⟩
    rw [Nat.add_sub_cancel' hkj]
  obtain ⟨d, -, f, hf, hfold⟩ :=
    foldlM_error _ ∅ ⟨_, hmem, ownSettings_error h hfile htext⟩
  exact ⟨f, hfold, kindName_of_ownSettings hf⟩

theorem wayDown_ok (h : ∀ s ∈ segments, Ordinary s) {k : Nat} (hk : k ≤ segments.length)
    (htext : ∀ j octets, k ≤ j → j ≤ segments.length → Holds t segments j octets →
      ∃ text, octets = Utf8.encode text) :
    ∃ r, wayDown t segments k = .ok r ∧ ∀ key value,
      r.get? key = some value ↔
        ∃ j, Greatest (fun i => k ≤ i ∧ ∃ v, Defines t segments i key v) segments.length j ∧
          Defines t segments j key value := by
  have hown : ∀ d ∈ (List.range (segments.length - k + 1)).map fun i =>
      (⟨.absolute, segments⟩ : Path).upper (k + i), ∃ own, ownSettings t d = .ok own := by
    intro d hd
    obtain ⟨i, hi, rfl⟩ := List.mem_map.1 hd
    rw [List.mem_range] at hi
    exact ownSettings_ok h fun octets => htext (k + i) octets (by omega) (by omega)
  obtain ⟨r, hr, hget⟩ := foldlM_ok _ ∅ hown
  refine ⟨r, hr, fun key value => ?_⟩
  have hvalue : ∀ i, ((ownValue? t key ∘ fun i => (⟨.absolute, segments⟩ : Path).upper (k + i)) i
      ≠ none) ↔ ∃ v, Defines t segments (k + i) key v := by
    intro i
    rw [Option.ne_none_iff_exists']
    exact exists_congr fun v => ownValue?_iff h
  rw [hget, Settings.get?_empty, Option.or_none, ← List.map_reverse, List.findSome?_map,
    findSome?_range_reverse]
  constructor
  · rintro ⟨i, hi, hfound⟩
    refine ⟨k + i, ?_, (ownValue?_iff h).1 hfound⟩
    exact (greatest_add_iff (p := fun j => ∃ v, Defines t segments j key v) hk).1
      (hi.congr fun i _ => hvalue i)
  · rintro ⟨j, hj, hdefines⟩
    obtain ⟨i, rfl⟩ : ∃ i, j = k + i := ⟨j - k, by have := hj.2.1.1; omega⟩
    refine ⟨i, ?_, (ownValue?_iff h).2 hdefines⟩
    exact ((greatest_add_iff (p := fun j => ∃ v, Defines t segments j key v) hk).2 hj).congr
      fun i _ => (hvalue i).symm

/-- Two trees with the same settings files on the way down give the same settings. -/
theorem wayDown_congr (h : ∀ s ∈ segments, Ordinary s) {t' : FileTree} {k : Nat}
    (hk : k ≤ segments.length)
    (hsame : ∀ j octets, k ≤ j → j ≤ segments.length →
      (Holds t' segments j octets ↔ Holds t segments j octets)) :
    wayDown t' segments k = wayDown t segments k := by
  refine merged_congr fun d hd => ?_
  obtain ⟨i, hi, rfl⟩ := List.mem_map.1 hd
  rw [List.mem_range] at hi
  refine ownSettings_congr (Option.ext fun octets => ?_)
  rw [conf_iff h, conf_iff h]
  exact hsame (k + i) octets (by omega) (by omega)

end Ordinary

end TreeStore

namespace ConfigClient

open TreeStore

/-- What a client answers after earlier lookups in whatever trees. -/
def answerAfter (lookups : List (FileTree × String)) (t : FileTree) (segments : List String) :
    Except Failure Settings :=
  (((fresh : ConfigClient FileTree).after lookups).get .standard t (Path.fileUri segments)).answer

def Raises (answer : Except Failure Settings) (kind : String) : Prop :=
  ∃ failure, answer = .error failure ∧ failure.kindName = kind

section Answer

variable {lookups : List (FileTree × String)} {t : FileTree} {segments : List String}

theorem answerAfter_of_unmarked (h : ∀ s ∈ segments, Ordinary s)
    (hno : ∀ i ≤ segments.length, ¬Marked t segments i) :
    answerAfter lookups t segments = .error (.noStore (⟨.absolute, segments⟩ : Path).text) := by
  refine (OverTrees.fresh.after lookups).get_answer_of_no_root (Path.target_fileUri h) ?_
  refine rootOf_of_unmarked fun i hi => ?_
  rw [← Bool.not_eq_true, hasMarker_iff h]
  exact hno i hi

theorem answerAfter_of_marked (h : ∀ s ∈ segments, Ordinary s) {k : Nat}
    (hk : Greatest (Marked t segments) segments.length k) :
    answerAfter lookups t segments = wayDown t segments k := by
  have hmarked : Greatest (fun i => hasMarker t ((⟨.absolute, segments⟩ : Path).upper i) = true)
      segments.length k := hk.congr fun i _ => (hasMarker_iff h i).symm
  have hnode := Path.below?_upper (⟨.absolute, segments⟩ : Path) k
  rw [Nat.min_eq_left hk.1] at hnode
  refine ((OverTrees.fresh.after lookups).get_answer_of_root (Path.target_fileUri h)
    (rootOf_of_nearest hmarked) (isDirectory_of_hasMarker hmarked.2.1) hnode).trans ?_
  rw [settings, chain_eq]
  rfl

theorem exists_greatest_marked (h : ∀ s ∈ segments, Ordinary s) {i : Nat}
    (hi : i ≤ segments.length) (hm : Marked t segments i) :
    ∃ k, Greatest (Marked t segments) segments.length k := by
  obtain ⟨k, hk⟩ := exists_greatest (p := ⟨.absolute, segments⟩) hi ((hasMarker_iff h i).2 hm)
  exact ⟨k, hk.congr fun i _ => hasMarker_iff h i⟩

/-- With a marked directory on the way, no store is missing. -/
theorem not_raises_of_marked (h : ∀ s ∈ segments, Ordinary s) {k : Nat}
    (hk : Greatest (Marked t segments) segments.length k) :
    ¬Raises (answerAfter lookups t segments) "ConfigStoreCreationError" := by
  rintro ⟨f, hf, hkind⟩
  rw [answerAfter_of_marked h hk] at hf
  by_cases hbad : ∃ j octets, k ≤ j ∧ j ≤ segments.length ∧ Holds t segments j octets ∧
      ¬∃ text, octets = Utf8.encode text
  · obtain ⟨j, octets, hkj, hj, hfile, hnot⟩ := hbad
    obtain ⟨f', hf', hkind'⟩ := wayDown_error h hkj hj hfile hnot
    obtain rfl := Except.error.inj (hf.symm.trans hf')
    rw [hkind'] at hkind
    exact absurd hkind (by decide)
  · obtain ⟨r, hr, -⟩ := wayDown_ok h hk.1 fun j octets hkj hj hfile =>
      Classical.byContradiction fun hnot => hbad ⟨j, octets, hkj, hj, hfile, hnot⟩
    rw [hr] at hf
    cases hf

end Answer

/-- The settings of a node: the nearest marked directory at the node or above it is the root of
its store, and of the settings files from there down to the node the deepest one that defines a
key says its value. -/
theorem deepest_definition (lookups : List (FileTree × String)) (t : FileTree)
    {segments : List String} (h : ∀ s ∈ segments, Ordinary s) :
    (Raises (answerAfter lookups t segments) "ConfigStoreCreationError" ↔
      ¬∃ i ≤ segments.length, Marked t segments i) ∧
    ∀ k, Greatest (Marked t segments) segments.length k →
      ((∃ j octets, k ≤ j ∧ j ≤ segments.length ∧ Holds t segments j octets ∧
          ¬∃ text, octets = Utf8.encode text) →
        Raises (answerAfter lookups t segments) "UnicodeDecodeError") ∧
      ((∀ j octets, k ≤ j → j ≤ segments.length → Holds t segments j octets →
          ∃ text, octets = Utf8.encode text) →
        ∃ settings, answerAfter lookups t segments = .ok settings ∧ ∀ key value,
          settings.get? key = some value ↔
            ∃ j, Greatest (fun i => k ≤ i ∧ ∃ v, Defines t segments i key v) segments.length j ∧
              Defines t segments j key value) ∧
      ∀ lookups' t', Greatest (Marked t' segments) segments.length k →
        (∀ j octets, k ≤ j → j ≤ segments.length →
          (Holds t' segments j octets ↔ Holds t segments j octets)) →
        answerAfter lookups' t' segments = answerAfter lookups t segments := by
  refine ⟨?_, fun k hk => ⟨?_, ?_, ?_⟩⟩
  · constructor
    · rintro hraises ⟨i, hi, hm⟩
      obtain ⟨k, hk⟩ := exists_greatest_marked h hi hm
      exact not_raises_of_marked h hk hraises
    · intro hno
      exact ⟨_, answerAfter_of_unmarked h fun i hi hm => hno ⟨i, hi, hm⟩, rfl⟩
  · rintro ⟨j, octets, hkj, hj, hfile, htext⟩
    obtain ⟨f, hf, hkind⟩ := wayDown_error h hkj hj hfile htext
    exact ⟨f, (answerAfter_of_marked h hk).trans hf, hkind⟩
  · intro htext
    obtain ⟨r, hr, hget⟩ := wayDown_ok h hk.1 htext
    exact ⟨r, (answerAfter_of_marked h hk).trans hr, hget⟩
  · intro lookups' t' hk' hsame
    rw [answerAfter_of_marked h hk', answerAfter_of_marked h hk, wayDown_congr h hk.1 hsame]

/-- A store at the top, with settings there and in one directory below. -/
def sampleTree : FileTree :=
  ((FileTree.empty.write ["_CONFIG_STORE"] []).write ["main.conf"]
    (Utf8.encode "owner=top".toList)).write ["hive", "main.conf"] (Utf8.encode "owner: hive".toList)

theorem entry_sample :
    sampleTree.entry ["_CONFIG_STORE"] = some (.file []) ∧
      sampleTree.entry ["hive", "_CONFIG_STORE"] = none ∧
      sampleTree.entry ["main.conf"] = some (.file (Utf8.encode "owner=top".toList)) ∧
      sampleTree.entry ["hive", "main.conf"]
        = some (.file (Utf8.encode "owner: hive".toList)) := by
  refine ⟨?_, ?_, ?_, ?_⟩
  · rfl
  · rfl
  · rfl
  · rfl

theorem nearest_sample : Greatest (Marked sampleTree ["hive"]) 1 0 := by
  obtain ⟨hmarker, hnone, -, -⟩ := entry_sample
  refine ⟨by decide, ⟨[], by decide, hmarker⟩, fun i hi hi' => ?_⟩
  obtain rfl : i = 1 := by omega
  rintro ⟨octets, -, hentry⟩
  change sampleTree.entry ["hive", "_CONFIG_STORE"] = _ at hentry
  rw [hnone] at hentry
  cases hentry

theorem holds_sample {j : Nat} {octets : List UInt8} (hj : j ≤ 1)
    (h : Holds sampleTree ["hive"] j octets) : ∃ text, octets = Utf8.encode text := by
  obtain ⟨-, -, htop, hown⟩ := entry_sample
  obtain ⟨-, hentry⟩ := h
  rcases Nat.le_one_iff_eq_zero_or_eq_one.1 hj with rfl | rfl
  · obtain heq := Option.some.inj (htop.symm.trans hentry)
    cases heq
    exact ⟨_, rfl⟩
  · obtain heq := Option.some.inj (hown.symm.trans hentry)
    cases heq
    exact ⟨_, rfl⟩

theorem deepest_definition_of_sample :
    ∃ settings, answerAfter [] sampleTree ["hive"] = .ok settings ∧
      settings.get? "owner" = some "hive" := by
  have hordinary : ∀ s ∈ ["hive"], Ordinary s := by decide
  obtain ⟨-, hall⟩ := deepest_definition [] sampleTree hordinary
  obtain ⟨-, hok, -⟩ := hall 0 nearest_sample
  obtain ⟨settings, hs, hget⟩ := hok fun j octets _ hj => holds_sample hj
  have hdefines : Defines sampleTree ["hive"] 1 "owner" "hive" :=
    ⟨"owner: hive".toList, ⟨by decide, entry_sample.2.2.2⟩, [], [], rfl, by simp⟩
  refine ⟨settings, hs, (hget "owner" "hive").2 ⟨1, ⟨by decide, ?_, ?_⟩, hdefines⟩⟩
  · exact ⟨by decide, _, hdefines⟩
  · exact fun i hi hi' => absurd hi' (by simp; omega)

end ConfigClient
end CatalogScout
