import CatalogScout.ConfigSource
import CatalogScout.Proofs.Store.Caching

/-!
The node of a table in a store.

The address of a table's node is the address of the store with the table's name behind it, as the
name stands.  So the node is the table's own as long as the name has no character that begins a
query or a fragment.  Such a character and what follows it are lost, and the table gets the
settings of the table whose name is left.
-/

namespace CatalogScout

open Text

namespace Text

theorem upTo_append_of_not_mem {c : Char} {a : List Char} (h : c ∉ a) (b : List Char) :
    upTo c (a ++ b) = a ++ upTo c b := by
  induction a with
  | nil => rfl
  | cons d a ih =>
    rw [List.mem_cons, not_or] at h
    rw [upTo, List.cons_append, List.takeWhile_cons, if_pos (bne_iff_ne.2 (Ne.symm h.1))]
    exact congrArg (d :: ·) (ih h.2)

theorem upTo_cons_self (c : Char) (s : List Char) : upTo c (c :: s) = [] := by
  rw [upTo, List.takeWhile_cons, if_neg (by simp)]

theorem dropTrailing_replicate (c : Char) (s : List Char) (m : Nat) :
    dropTrailing c (s ++ List.replicate m c) = dropTrailing c s := by
  induction m with
  | zero => rw [List.replicate_zero, List.append_nil]
  | succ m ih =>
    rw [List.replicate_succ', ← List.append_assoc, dropTrailing, List.reverse_append,
      List.reverse_singleton, List.singleton_append, List.dropWhile_cons, if_pos (by simp)]
    exact ih

theorem dropTrailing_concat {c d : Char} (h : d ≠ c) (s : List Char) :
    dropTrailing c (s ++ [d]) = s ++ [d] := by
  rw [dropTrailing, List.reverse_append, List.reverse_singleton, List.singleton_append,
    List.dropWhile_cons, if_neg (by simpa using h), List.reverse_cons, List.reverse_reverse]

end Text

namespace Path

/-! ## Paths with a tail

What may stand behind the path of an address begins with a mark of its own. -/

def IsTail (tail : List Char) : Prop := ∀ c, tail.head? = some c → c = '?' ∨ c = '#'

theorem isTail_nil : IsTail [] := by
  intro c h
  cases h

theorem isTail_cons {c : Char} (h : c = '?' ∨ c = '#') (s : List Char) : IsTail (c :: s) := by
  intro d hd
  obtain rfl : c = d := Option.some.inj hd
  exact h

theorem unbroken_append (a b : List Char) : unbroken (a ++ b) = unbroken a ++ unbroken b :=
  List.filter_append a b

theorem isTail_unbroken {tail : List Char} (h : IsTail tail) : IsTail (unbroken tail) := by
  cases tail with
  | nil => exact isTail_nil
  | cons c s =>
    have hc := h c rfl
    have hkeep : unbroken (c :: s) = c :: unbroken s := by
      rcases hc with rfl | rfl <;> rfl
    rw [hkeep]
    exact isTail_cons hc _

/-- Query and fragment are cut off. -/
theorem upTo_tail {s tail : List Char} (hquery : '?' ∉ s) (hfragment : '#' ∉ s)
    (h : IsTail tail) : upTo '?' (upTo '#' (s ++ tail)) = s := by
  rw [upTo_append_of_not_mem hfragment]
  cases tail with
  | nil => exact (congrArg (upTo '?') (List.append_nil s)).trans (upTo_of_not_mem hquery)
  | cons c r =>
    rcases h c rfl with rfl | rfl
    · have hmark : upTo '#' ('?' :: r) = '?' :: upTo '#' r := rfl
      rw [hmark, upTo_append_of_not_mem hquery, upTo_cons_self, List.append_nil]
    · rw [upTo_cons_self, List.append_nil, upTo_of_not_mem hquery]

/-- The text of an absolute path that is not the top. -/
def slashed (segments : List String) : List Char :=
  segments.flatMap fun segment => '/' :: segment.toList

theorem slashed_append (a b : List String) : slashed (a ++ b) = slashed a ++ slashed b :=
  List.flatMap_append

theorem slashed_eq_joined {segments : List String} (h : segments ≠ []) :
    slashed segments = '/' :: joined segments := by
  induction segments with
  | nil => exact absurd rfl h
  | cons s rest ih =>
    by_cases hlast : rest = []
    · subst hlast
      rw [joined, List.map_singleton, List.intercalate_singleton]
      exact List.append_nil _
    · have hrest := ih hlast
      have hmap : rest.map String.toList ≠ [] := by simpa using hlast
      rw [joined, List.map_cons, List.intercalate_cons_of_ne_nil hmap]
      show '/' :: (s.toList ++ slashed rest) = _
      rw [hrest, List.append_assoc]
      rfl

section Ordinary

variable {segments : List String}

theorem not_mem_slashed (h : ∀ s ∈ segments, Ordinary s) {c : Char} (hslash : c ≠ '/')
    (hc : c ∈ ['/', '?', '#', '\t', '\r', '\n']) : c ∉ slashed segments := by
  intro hmem
  obtain ⟨s, hs, hcs⟩ := List.mem_flatMap.1 hmem
  rcases List.mem_cons.1 hcs with heq | hcs
  · exact hslash heq
  · exact (h s hs).2.2.2 c hcs hc

theorem unbroken_slashed (h : ∀ s ∈ segments, Ordinary s) (tail : List Char) :
    unbroken (slashed segments ++ tail) = slashed segments ++ unbroken tail := by
  have hsame : unbroken (slashed segments) = slashed segments := by
    refine unbroken_of_not_mem fun c hc => ?_
    refine not_mem_slashed h ?_ (List.mem_of_mem_drop (i := 3) hc)
    rintro rfl
    exact absurd hc (by decide)
  rw [unbroken_append, hsame]

/-- One slash in front begins no authority. -/
theorem cutAuthority_slashed (h : ∀ s ∈ segments, Ordinary s) (hne : segments ≠ [])
    (tail : List Char) :
    Uri.cutAuthority (slashed segments ++ tail) = ([], slashed segments ++ tail) := by
  rw [slashed_eq_joined hne, List.cons_append, Uri.cutAuthority]
  intro r heq
  obtain ⟨-, heq⟩ := List.cons.inj heq
  cases hj : joined segments with
  | nil =>
    have hfields := fields_joined h hne
    rw [hj] at hfields
    cases segments with
    | nil => exact hne rfl
    | cons s rest =>
      have hs : s.toList = [] := (List.cons.inj hfields).1.symm
      exact (h s List.mem_cons_self).1 (String.toList_eq_nil_iff.1 hs)
  | cons c joinedRest =>
    rw [hj, List.cons_append] at heq
    obtain ⟨rfl, -⟩ := List.cons.inj heq
    exact joined_ne_slash h joinedRest hj

/-- The two ways to write an address of a file, with a tail behind the path. -/
theorem target_file (h : ∀ s ∈ segments, Ordinary s) (hne : segments ≠ []) {front tail : List Char}
    (hfront : front = [] ∨ front = ['/', '/']) (htail : IsTail tail) {uri : String}
    (huri : uri.toList = "file:".toList ++ (front ++ (slashed segments ++ tail))) :
    ConfigClient.target uri = .ok ("file", ⟨.absolute, segments⟩) := by
  have hcut : Uri.cutAuthority (unbroken (front ++ (slashed segments ++ tail)))
      = ([], slashed segments ++ unbroken tail) := by
    rcases hfront with rfl | rfl
    · rw [List.nil_append, unbroken_slashed h, cutAuthority_slashed h hne]
    · show Uri.cutAuthority ('/' :: '/' :: unbroken (slashed segments ++ tail)) = _
      rw [unbroken_slashed h, slashed_eq_joined hne]
      rfl
  have hpath : upTo '?' (upTo '#' (slashed segments ++ unbroken tail)) = slashed segments :=
    upTo_tail (not_mem_slashed h (by decide) (by decide))
      (not_mem_slashed h (by decide) (by decide)) (isTail_unbroken htail)
  rw [ConfigClient.target, huri, parse_file hcut, hpath, slashed_eq_joined hne]
  show Except.ok (_, Path.ofText ('/' :: joined segments)) = _
  rw [ofText_joined h]
  rfl

end Ordinary

/-! ## The address of a store -/

/-- The address of a directory, with slashes behind. -/
def storeUri (directory : List String) (slashes : Nat) : String :=
  fileUri directory ++ String.ofList (List.replicate slashes '/')

/-- Slashes behind are dropped, and of the address of the top they are all there is. -/
theorem dropTrailing_storeUri {directory : List String} (h : ∀ s ∈ directory, Ordinary s)
    (slashes : Nat) :
    ∃ front, (front = [] ∨ front = ['/', '/']) ∧
      dropTrailing '/' (storeUri directory slashes).toList
        = "file:".toList ++ (front ++ slashed directory) := by
  rw [storeUri, String.toList_append, String.toList_ofList, dropTrailing_replicate,
    fileUri_toList]
  by_cases hne : directory = []
  · subst hne
    exact ⟨[], Or.inl rfl, rfl⟩
  · refine ⟨['/', '/'], Or.inr rfl, ?_⟩
    have htext : "file:".toList ++ '/' :: '/' :: '/' :: joined directory
        = "file:".toList ++ (['/', '/'] ++ slashed directory) := by
      rw [slashed_eq_joined hne]
      rfl
    obtain ⟨upper, last, rfl⟩ := List.eq_nil_or_concat directory |>.resolve_left hne
    rw [List.concat_eq_append] at h htext ⊢
    have hlast := h last (by simp)
    obtain ⟨before, c, hc⟩ := (List.eq_nil_or_concat last.toList).resolve_left fun hnil =>
      hlast.1 (String.toList_eq_nil_iff.1 hnil)
    rw [List.concat_eq_append] at hc
    have hslash : c ≠ '/' := by
      rintro rfl
      exact hlast.2.2.2 '/' (by simp [hc]) (by decide)
    have hend : "file:".toList ++ (['/', '/'] ++ slashed (upper ++ [last]))
        = ("file:".toList ++ (['/', '/'] ++ (slashed upper ++ '/' :: before))) ++ [c] := by
      rw [slashed_append]
      simp [slashed, hc]
    rw [htext, hend, dropTrailing_concat hslash]

end Path

/-! ## The settings of a table -/

namespace TableName

/-- The way from the top to the node of a table, by way of the directory that a store's address
names. -/
def way (directory : List String) (n : TableName) : List String :=
  directory ++ ["hive", n.db, n.table]

theorem way_inj {directory : List String} {n n' : TableName}
    (h : n.way directory = n'.way directory) : n = n' := by
  have hnames := List.append_cancel_left h
  simp only [List.cons.injEq, and_true, true_and] at hnames
  obtain ⟨hdb, htable⟩ := hnames
  cases n
  cases n'
  rw [mk.injEq]
  exact ⟨hdb, htable⟩

theorem nodeText_toList (n : TableName) :
    n.nodeText.toList = Path.slashed ["hive", n.db, n.table] := by
  have hhive : "/hive/".toList = '/' :: ("hive".toList ++ ['/']) := rfl
  have hslash : "/".toList = ['/'] := rfl
  simp only [nodeText, String.toList_append, Path.slashed, List.flatMap_cons, List.flatMap_nil,
    List.append_nil, hhive, hslash, List.cons_append, List.append_assoc, List.nil_append]

end TableName

namespace ConfigSource

open ConfigClient TreeStore CatalogScout.Path

/-- The root that a source makes of the address of a store. -/
def storeRoot (uri : String) : String := String.ofList (dropTrailing '/' uri.toList)

/-- The settings that a store has for a table, asked of a client that made lookups before. -/
def tableSettings (lookups : List (FileTree × String)) (t : FileTree) (uri : String)
    (n : TableName) : Except Failure Settings :=
  ((ofStore uri).resolve (ConfigClient.service .standard)
    (t, (fresh : ConfigClient FileTree).after lookups) n).answer

theorem answer_resolve_ofStore {State : Type} (service : ConfigService State) (uri : String)
    (state : State) (n : TableName) :
    ((ofStore uri).resolve service state n).answer
      = (service state (nodeUri (storeRoot uri) n)).answer := by
  have hnarrow : ∀ answer : Except Failure Settings, answer.map (ofStore uri).narrow = answer := by
    intro answer
    cases answer <;> rfl
  exact hnarrow _

theorem tableSettings_eq (lookups : List (FileTree × String)) (t : FileTree) (uri : String)
    (n : TableName) : tableSettings lookups t uri n = lookup t (nodeUri (storeRoot uri) n) := by
  have hservice : ∀ c uri, (ConfigClient.service .standard (t, c) uri).answer
      = (c.get .standard t uri).answer := fun _ _ => rfl
  rw [tableSettings, answer_resolve_ofStore, hservice, (Tended.fresh.after lookups).get_answer]

section Node

variable {directory : List String} {n : TableName} {t t' : FileTree}
  {lookups : List (FileTree × String)}

theorem ordinary_way (hdirectory : ∀ s ∈ directory, Ordinary s) (hdb : Ordinary n.db)
    (htable : Ordinary n.table) : ∀ s ∈ n.way directory, Ordinary s := by
  have hhive : Ordinary "hive" := by decide
  intro s hs
  rcases List.mem_append.1 hs with hs | hs
  · exact hdirectory s hs
  · simp only [List.mem_cons, List.not_mem_nil, or_false] at hs
    rcases hs with rfl | rfl | rfl
    · exact hhive
    · exact hdb
    · exact htable

/-- What stands behind the root of a store goes on with the way to the store. -/
theorem target_below (hdirectory : ∀ s ∈ directory, Ordinary s) {below : List String}
    (hbelow : ∀ s ∈ below, Ordinary s) (hne : below ≠ []) (slashes : Nat) {text : String}
    {tail : List Char} (htail : IsTail tail) (htext : text.toList = slashed below ++ tail) :
    target (storeRoot (storeUri directory slashes) ++ text)
      = .ok ("file", ⟨.absolute, directory ++ below⟩) := by
  obtain ⟨front, hfront, hroot⟩ := dropTrailing_storeUri hdirectory slashes
  have hall : ∀ s ∈ directory ++ below, Ordinary s := List.forall_mem_append.2 ⟨hdirectory, hbelow⟩
  have hall_ne : directory ++ below ≠ [] := fun h => hne (List.append_eq_nil_iff.1 h).2
  refine target_file hall hall_ne hfront htail ?_
  rw [storeRoot, String.toList_append, String.toList_ofList, hroot, htext, slashed_append]
  simp only [List.append_assoc]

/-- A lookup of a path goes by the files on the way to it. -/
theorem lookup_eq_answerAfter {segments : List String} (h : ∀ s ∈ segments, Ordinary s) :
    TreeStore.lookup t ⟨.absolute, segments⟩ = answerAfter [] t segments := by
  rw [answerAfter, (Tended.fresh.after []).get_answer, lookup_of_target (target_fileUri h)]

/-- The table named by what stands before a mark has the say. -/
theorem tableSettings_of_tail (hdirectory : ∀ s ∈ directory, Ordinary s) (hdb : Ordinary n.db)
    (htable : Ordinary n.table) (slashes : Nat) {tail : String} (htail : IsTail tail.toList) :
    tableSettings lookups t (storeUri directory slashes) ⟨n.db, n.table ++ tail⟩
      = answerAfter [] t (n.way directory) := by
  have hbelow : ∀ s ∈ ["hive", n.db, n.table], Ordinary s :=
    ordinary_way (fun s hs => absurd hs List.not_mem_nil) hdb htable
  have htext : (TableName.nodeText ⟨n.db, n.table ++ tail⟩).toList
      = slashed ["hive", n.db, n.table] ++ tail.toList := by
    rw [TableName.nodeText_toList]
    simp [slashed]
  rw [tableSettings_eq, nodeUri,
    lookup_of_target (target_below hdirectory hbelow (by simp) slashes htail htext)]
  exact lookup_eq_answerAfter (ordinary_way hdirectory hdb htable)

theorem tableSettings_of_ordinary (hdirectory : ∀ s ∈ directory, Ordinary s)
    (hdb : Ordinary n.db) (htable : Ordinary n.table) (slashes : Nat) :
    tableSettings lookups t (storeUri directory slashes) n
      = answerAfter [] t (n.way directory) := by
  have h : tableSettings lookups t (storeUri directory slashes) ⟨n.db, n.table ++ ""⟩
      = answerAfter [] t (n.way directory) :=
    tableSettings_of_tail hdirectory hdb htable slashes isTail_nil
  rwa [String.append_empty] at h

/-- Behind a mark in the name of a database the table is lost, too. -/
theorem tableSettings_of_database_tail (hdirectory : ∀ s ∈ directory, Ordinary s) {db : String}
    (hdb : Ordinary db) (slashes : Nat) {mark : Char} (hmark : mark = '?' ∨ mark = '#')
    (rest : List Char) (table : String) :
    tableSettings lookups t (storeUri directory slashes)
        ⟨db ++ String.ofList (mark :: rest), table⟩
      = answerAfter [] t (directory ++ ["hive", db]) := by
  have hbelow : ∀ s ∈ ["hive", db], Ordinary s := by
    have hhive : Ordinary "hive" := by decide
    simpa using ⟨hhive, hdb⟩
  have htext : (TableName.nodeText ⟨db ++ String.ofList (mark :: rest), table⟩).toList
      = slashed ["hive", db] ++ (mark :: (rest ++ '/' :: table.toList)) := by
    rw [TableName.nodeText_toList]
    simp [slashed]
  rw [tableSettings_eq, nodeUri,
    lookup_of_target (target_below hdirectory hbelow (by simp) slashes
      (isTail_cons hmark _) htext)]
  exact lookup_eq_answerAfter (List.forall_mem_append.2 ⟨hdirectory, hbelow⟩)

/-! ## Nodes of other tables -/

/-- The trees differ inside of a directory only. -/
def AgreeOutside (directory : List String) (t' t : FileTree) : Prop :=
  ∀ place, (∀ segment rest, place ≠ directory ++ segment :: rest) → t'.entry place = t.entry place

/-- No file on the way to a table lies inside of another table's node. -/
theorem fileIn_way_iff {n' : TableName} (hne : n' ≠ n)
    (hagree : AgreeOutside (n'.way directory) t' t) (i : Nat) (name : String)
    (octets : List UInt8) :
    FileIn t' ((n.way directory).take i) name octets ↔
      FileIn t ((n.way directory).take i) name octets := by
  have hentry : t'.entry ((n.way directory).take i ++ [name])
      = t.entry ((n.way directory).take i ++ [name]) := by
    refine hagree _ fun segment rest heq => ?_
    have hlength := congrArg List.length heq
    simp only [TableName.way, List.length_append, List.length_take, List.length_cons,
      List.length_nil] at hlength
    have hrest : rest = [] := List.length_eq_zero_iff.1 (by omega)
    subst hrest
    have hway := (List.append_inj' heq rfl).1
    rw [List.take_of_length_le (by simp [TableName.way]; omega)] at hway
    exact hne (TableName.way_inj hway).symm
  rw [FileIn, FileIn, hentry]

theorem answerAfter_congr {segments : List String} (h : ∀ s ∈ segments, Ordinary s)
    (hfile : ∀ i name octets, FileIn t' (segments.take i) name octets ↔
      FileIn t (segments.take i) name octets) :
    answerAfter lookups t' segments = answerAfter lookups t segments := by
  have hmarked : ∀ i, Marked t' segments i ↔ Marked t segments i := fun i =>
    exists_congr fun octets => hfile i _ octets
  by_cases hany : ∃ i ≤ segments.length, Marked t segments i
  · obtain ⟨i, hi, hm⟩ := hany
    obtain ⟨k, hk⟩ := exists_greatest_marked h hi hm
    have hk' : Greatest (Marked t' segments) segments.length k :=
      hk.congr fun i _ => (hmarked i).symm
    rw [answerAfter_of_marked h hk, answerAfter_of_marked h hk',
      wayDown_congr h hk.1 fun j octets _ _ => hfile j _ octets]
  · have hnone : ∀ i ≤ segments.length, ¬Marked t segments i := fun i hi hm => hany ⟨i, hi, hm⟩
    rw [answerAfter_of_unmarked h hnone,
      answerAfter_of_unmarked h fun i hi hm => hnone i hi ((hmarked i).1 hm)]

/-! ## The merge -/

/-- The directories from one on the way to a directory, down to the node of a table below. -/
def downTo (directory : List String) (n : TableName) (k : Nat) : List Path :=
  (List.range (directory.length - k + 1)).map
      (fun i => (⟨.absolute, directory⟩ : Path).upper (k + i))
    ++ [⟨.absolute, directory ++ ["hive"]⟩, ⟨.absolute, directory ++ ["hive", n.db]⟩,
      ⟨.absolute, directory ++ ["hive", n.db, n.table]⟩]

theorem wayDown_way {k : Nat} (hk : k ≤ directory.length) :
    wayDown t (n.way directory) k = merged t (downTo directory n k) := by
  have hlength : (n.way directory).length - k + 1 = directory.length - k + 1 + 3 := by
    simp only [TableName.way, List.length_append, List.length_cons, List.length_nil]
    omega
  have hbelow : ∀ i, i < 3 → (⟨.absolute, n.way directory⟩ : Path).upper
        (k + (directory.length - k + 1 + i))
      = ⟨.absolute, directory ++ ["hive", n.db, n.table].take (i + 1)⟩ := by
    intro i _
    have hindex : k + (directory.length - k + 1 + i) = directory.length + (i + 1) := by omega
    rw [hindex, Path.upper, TableName.way, List.take_length_add_append]
  have habove : (List.range (directory.length - k + 1)).map
        (fun i => (⟨.absolute, n.way directory⟩ : Path).upper (k + i))
      = (List.range (directory.length - k + 1)).map
        fun i => (⟨.absolute, directory⟩ : Path).upper (k + i) := by
    refine List.map_congr_left fun i hi => ?_
    rw [List.mem_range] at hi
    rw [Path.upper, Path.upper, TableName.way, List.take_append_of_le_length (by omega)]
  rw [wayDown, hlength, List.range_add, List.map_append, habove, downTo, List.map_map]
  show merged t (_ ++ [_, _, _]) = _
  rw [Function.comp_apply, Function.comp_apply, Function.comp_apply, hbelow 0 (by omega),
    hbelow 1 (by omega), hbelow 2 (by omega)]
  rfl

/-- What the deepest directory says counts. -/
theorem merged_get_of_last {above : List Path} {last : Path} {key value : String}
    (hown : ∀ d ∈ above ++ [last], ∃ own, ownSettings t d = .ok own)
    (hlast : ownValue? t key last = some value) :
    ∃ settings, merged t (above ++ [last]) = .ok settings ∧ settings.get? key = some value := by
  obtain ⟨r, hr, hget⟩ := foldlM_ok _ ∅ hown
  refine ⟨r, hr, ?_⟩
  rw [hget, List.reverse_append, List.reverse_singleton, List.singleton_append,
    List.findSome?_cons, hlast]
  rfl

/-- The settings of a table are those of its own node: what a lookup of the node's address
answers, the merge from the nearest marked directory down, by way of the directories of the store's
address, of all tables, of the database and of the table.  Whatever stands in the node of another
table has no part in them.  This is said of names that stand for themselves in an address.  A name
that goes on with a mark of a query or a fragment has the settings of the name before it. -/
theorem settings_of_own_node (lookups : List (FileTree × String)) (t : FileTree)
    {directory : List String} (hdirectory : ∀ s ∈ directory, Ordinary s) (slashes : Nat)
    {n : TableName} (hdb : Ordinary n.db) (htable : Ordinary n.table) :
    tableSettings lookups t (storeUri directory slashes) n
        = answerAfter lookups t (n.way directory) ∧
    (∀ k, Greatest (Marked t (n.way directory)) (n.way directory).length k →
      tableSettings lookups t (storeUri directory slashes) n = wayDown t (n.way directory) k ∧
      (k ≤ directory.length → tableSettings lookups t (storeUri directory slashes) n
        = merged t (downTo directory n k))) ∧
    (∀ n' ≠ n, ∀ t', AgreeOutside (n'.way directory) t' t →
      tableSettings lookups t' (storeUri directory slashes) n
        = tableSettings lookups t (storeUri directory slashes) n) ∧
    ∀ mark rest, mark = '?' ∨ mark = '#' →
      tableSettings lookups t (storeUri directory slashes)
          ⟨n.db, n.table ++ String.ofList (mark :: rest)⟩
        = tableSettings lookups t (storeUri directory slashes) n ∧
      ∀ table, tableSettings lookups t (storeUri directory slashes)
          ⟨n.db ++ String.ofList (mark :: rest), table⟩
        = answerAfter lookups t (directory ++ ["hive", n.db]) := by
  have hway := ordinary_way hdirectory hdb htable
  have hown : ∀ t, tableSettings lookups t (storeUri directory slashes) n
      = answerAfter [] t (n.way directory) := fun t =>
    tableSettings_of_ordinary hdirectory hdb htable slashes
  have hkept : ∀ {segments : List String}, (∀ s ∈ segments, Ordinary s) →
      answerAfter [] t segments = answerAfter lookups t segments := by
    intro segments hsegments
    rw [answerAfter, answerAfter, (Tended.fresh.after []).get_answer,
      (Tended.fresh.after lookups).get_answer]
  refine ⟨?_, fun k hk => ?_, fun n' hne t' hagree => ?_, fun mark rest hmark => ?_⟩
  · rw [hown, hkept hway]
  · have hmerge : answerAfter [] t (n.way directory) = wayDown t (n.way directory) k :=
      answerAfter_of_marked hway hk
    refine ⟨?_, fun hkd => ?_⟩
    · rw [hown, hmerge]
    · rw [hown, hmerge, wayDown_way hkd]
  · rw [hown, hown]
    exact answerAfter_congr hway fun i name octets => fileIn_way_iff hne hagree i name octets
  · refine ⟨?_, fun table => ?_⟩
    · have htail : IsTail (String.ofList (mark :: rest)).toList := by
        rw [String.toList_ofList]
        exact isTail_cons hmark rest
      rw [hown, tableSettings_of_tail hdirectory hdb htable slashes htail]
    · have hhive : Ordinary "hive" := by decide
      have hdatabase : ∀ s ∈ directory ++ ["hive", n.db], Ordinary s :=
        List.forall_mem_append.2 ⟨hdirectory, by simpa using ⟨hhive, hdb⟩⟩
      rw [tableSettings_of_database_tail hdirectory hdb slashes hmark, hkept hdatabase]

end Node

/-! ## Two tables, one name the beginning of the other -/

/-- A store with a node for a table and one for a table whose name goes on with a number sign. -/
def signTree : FileTree :=
  ((FileTree.empty.write ["store", "_CONFIG_STORE"] []).write
    ["store", "hive", "db", "t", "main.conf"] (Utf8.encode "owner=other".toList)).write
    ["store", "hive", "db", "t#1", "main.conf"] (Utf8.encode "owner=own".toList)

theorem nearest_signTree : Greatest (Marked signTree ["store", "hive", "db", "t"]) 4 1 := by
  refine ⟨by decide, ⟨[], by decide, rfl⟩, fun i hi hi' => ?_⟩
  rintro ⟨octets, -, hentry⟩
  obtain rfl | rfl | rfl : i = 2 ∨ i = 3 ∨ i = 4 := by omega
  · cases hentry
  · cases hentry
  · cases hentry

theorem ownSettings_signTree :
    ownSettings signTree ⟨.absolute, ["store"]⟩ = .ok ∅ ∧
      ownSettings signTree ⟨.absolute, ["store", "hive"]⟩ = .ok ∅ ∧
      ownSettings signTree ⟨.absolute, ["store", "hive", "db"]⟩ = .ok ∅ ∧
      ownSettings signTree ⟨.absolute, ["store", "hive", "db", "t"]⟩
        = .ok (Settings.ofText "owner=other".toList) ∧
      ownSettings signTree ⟨.absolute, ["store", "hive", "db", "t#1"]⟩
        = .ok (Settings.ofText "owner=own".toList) := by
  refine ⟨rfl, rfl, rfl, ?_, ?_⟩
  · exact Settings.ofOctets_encode "owner=other".toList
  · exact Settings.ofOctets_encode "owner=own".toList

theorem entriesOf_sign :
    Settings.entriesOf "owner=other".toList = [("owner", "other")] ∧
      Settings.entriesOf "owner=own".toList = [("owner", "own")] :=
  ⟨rfl, rfl⟩

/-- Whose node the merge for a table ends with can be told by the owner. -/
theorem owner_signTree {table owner text : String}
    (hsettings : ownSettings signTree ⟨.absolute, ["store", "hive", "db", table]⟩
      = .ok (Settings.ofText text.toList))
    (htext : Settings.entriesOf text.toList = [("owner", owner)]) :
    ∃ settings, merged signTree (downTo ["store"] ⟨"db", table⟩ 1) = .ok settings ∧
      settings.get? "owner" = some owner := by
  obtain ⟨hstore, hhive, hdb, -, -⟩ := ownSettings_signTree
  have hlist : downTo ["store"] ⟨"db", table⟩ 1
      = [⟨.absolute, ["store"]⟩, ⟨.absolute, ["store", "hive"]⟩,
        ⟨.absolute, ["store", "hive", "db"]⟩] ++ [⟨.absolute, ["store", "hive", "db", table]⟩] :=
    rfl
  rw [hlist]
  refine merged_get_of_last (fun d hd => ?_) ?_
  · simp only [List.cons_append, List.nil_append, List.mem_cons, List.not_mem_nil, or_false] at hd
    rcases hd with rfl | rfl | rfl | rfl
    · exact ⟨_, hstore⟩
    · exact ⟨_, hhive⟩
    · exact ⟨_, hdb⟩
    · exact ⟨_, hsettings⟩
  · rw [ownValue?, hsettings]
    refine Settings.get?_ofText.2 ?_
    rw [htext]
    exact ⟨[], [], rfl, by simp⟩

/-- A number sign is no control character and no slash, yet the table whose name has one gets the
settings of another table, not those that stand in its own node. -/
theorem number_sign_takes_other_node :
    (∀ c ∈ "t#1".toList, c ≠ '/' ∧ 0x20 ≤ c.toNat ∧ c.toNat < 0x7f) ∧
      Greatest (Marked signTree ["store"]) 1 1 ∧
      tableSettings [] signTree (storeUri ["store"] 0) ⟨"db", "t#1"⟩
        = tableSettings [] signTree (storeUri ["store"] 0) ⟨"db", "t"⟩ ∧
      tableSettings [] signTree (storeUri ["store"] 0) ⟨"db", "t#1"⟩
        ≠ merged signTree (downTo ["store"] ⟨"db", "t#1"⟩ 1) := by
  have hdirectory : ∀ s ∈ ["store"], Ordinary s := by decide
  have hdb : Ordinary "db" := by decide
  have htable : Ordinary "t" := by decide
  obtain ⟨-, -, -, hother, hown⟩ := ownSettings_signTree
  have hshown : tableSettings [] signTree (storeUri ["store"] 0) ⟨"db", "t#1"⟩
      = answerAfter [] signTree (TableName.way ["store"] ⟨"db", "t"⟩) := by
    have htail : IsTail "#1".toList := isTail_cons (Or.inr rfl) ['1']
    have hname : (⟨"db", "t#1"⟩ : TableName) = ⟨"db", "t" ++ "#1"⟩ := rfl
    rw [hname]
    exact tableSettings_of_tail (n := ⟨"db", "t"⟩) hdirectory hdb htable 0 htail
  refine ⟨by simp, ⟨by decide, ⟨[], by decide, rfl⟩, fun i hi hi' => absurd hi' (by omega)⟩, ?_, ?_⟩
  · rw [hshown, tableSettings_of_ordinary hdirectory hdb htable]
  · have hway := ordinary_way (n := ⟨"db", "t"⟩) hdirectory hdb htable
    obtain ⟨r, hr, howner⟩ := owner_signTree hother entriesOf_sign.1
    obtain ⟨r', hr', howner'⟩ := owner_signTree hown entriesOf_sign.2
    rw [hshown, answerAfter_of_marked hway nearest_signTree, wayDown_way (by decide), hr, hr']
    intro heq
    obtain rfl := Except.ok.inj heq
    rw [howner] at howner'
    exact absurd howner' (by decide)

theorem settings_of_own_node_of_two :
    ∃ settings, tableSettings [] signTree (storeUri ["store"] 2) ⟨"db", "t"⟩ = .ok settings ∧
      settings.get? "owner" = some "other" ∧
      tableSettings [] signTree (storeUri ["store"] 2) ⟨"db", "t#1"⟩ = .ok settings := by
  have hdirectory : ∀ s ∈ ["store"], Ordinary s := by decide
  obtain ⟨-, hmerge, -, hmark⟩ := settings_of_own_node [] signTree hdirectory 2
    (n := ⟨"db", "t"⟩) (by decide) (by decide)
  obtain ⟨r, hr, howner⟩ := owner_signTree ownSettings_signTree.2.2.2.1 entriesOf_sign.1
  have hsettings := (hmerge 1 nearest_signTree).2 (by decide)
  exact ⟨r, hsettings.trans hr, howner, (hmark '#' ['1'] (Or.inr rfl)).1.trans (hsettings.trans hr)⟩

end ConfigSource
end CatalogScout
