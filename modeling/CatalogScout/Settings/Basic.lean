/-!
Settings: a finite map from keys to values.

The entries are kept in the order of their keys, each key once, so two settings that answer
every key alike are equal (`ext_get?`), and a table of settings is its entries as they stand.
-/

namespace CatalogScout

structure Settings where
  entries : List (String × String)
  sorted : entries.Pairwise fun a b => a.1 < b.1

namespace Settings

/-- Put an entry in its place, over an earlier value of the same key. -/
def insertEntry (key value : String) : List (String × String) → List (String × String)
  | [] => [(key, value)]
  | (k, v) :: r =>
    if key < k then (key, value) :: (k, v) :: r
    else if key = k then (key, value) :: r
    else (k, v) :: insertEntry key value r

theorem mem_insertEntry {key value : String} {entries : List (String × String)}
    {e : String × String} (h : e ∈ insertEntry key value entries) :
    e = (key, value) ∨ e ∈ entries := by
  induction entries with
  | nil => simpa [insertEntry] using h
  | cons head r ih =>
    simp only [insertEntry] at h
    split at h
    · simpa using h
    · split at h
      · rcases List.mem_cons.1 h with h | h
        · exact .inl h
        · exact .inr (List.mem_cons_of_mem _ h)
      · rcases List.mem_cons.1 h with h | h
        · exact .inr (h ▸ List.mem_cons_self)
        · exact (ih h).imp_right (List.mem_cons_of_mem _)

theorem lt_of_not_lt_of_ne {a b : String} (h : ¬a < b) (hne : a ≠ b) : b < a := by
  rcases Decidable.em (b < a) with hba | hba
  · exact hba
  · exact absurd (String.le_antisymm (String.not_lt.1 hba) (String.not_lt.1 h)) hne

theorem sorted_insertEntry (key value : String) {entries : List (String × String)}
    (h : entries.Pairwise fun a b => a.1 < b.1) :
    (insertEntry key value entries).Pairwise fun a b => a.1 < b.1 := by
  induction entries with
  | nil => simp [insertEntry]
  | cons head r ih =>
    have hr := List.pairwise_cons.1 h
    simp only [insertEntry]
    split
    · next hlt =>
      refine List.pairwise_cons.2 ⟨fun e he => ?_, h⟩
      rcases List.mem_cons.1 he with rfl | he
      · exact hlt
      · exact String.lt_trans hlt (hr.1 e he)
    · next hlt =>
      split
      · next heq =>
        subst heq
        exact List.pairwise_cons.2 ⟨hr.1, hr.2⟩
      · next hne =>
        refine List.pairwise_cons.2 ⟨fun e he => ?_, ih hr.2⟩
        rcases mem_insertEntry he with rfl | he
        · exact lt_of_not_lt_of_ne hlt hne
        · exact hr.1 e he

def empty : Settings := ⟨[], .nil⟩

instance : EmptyCollection Settings := ⟨empty⟩

instance : Inhabited Settings := ⟨empty⟩

def isEmpty (s : Settings) : Bool := s.entries.isEmpty

def get? (s : Settings) (key : String) : Option String :=
  (s.entries.find? fun e => e.1 == key).map (·.2)

def contains (s : Settings) (key : String) : Bool := (s.get? key).isSome

def put (s : Settings) (key value : String) : Settings :=
  ⟨insertEntry key value s.entries, sorted_insertEntry key value s.sorted⟩

/-- Every entry of a list in turn, so of two values of one key the later stays. -/
def putAll (s : Settings) (entries : List (String × String)) : Settings :=
  entries.foldl (fun s e => s.put e.1 e.2) s

def ofList (entries : List (String × String)) : Settings := (∅ : Settings).putAll entries

/-- All of both, where the second overrides the first. -/
def override (s t : Settings) : Settings := s.putAll t.entries

/-! ## What each operation does to the answers -/

@[simp]
theorem get?_empty (key : String) : (∅ : Settings).get? key = none := rfl

theorem find?_insertEntry (key value k : String) (entries : List (String × String)) :
    ((insertEntry key value entries).find? fun e => e.1 == k).map (·.2)
      = if key = k then some value else (entries.find? fun e => e.1 == k).map (·.2) := by
  induction entries with
  | nil => by_cases h : key = k <;> simp [insertEntry, h]
  | cons head r ih =>
    simp only [insertEntry]
    split
    · by_cases h : key = k <;> simp [List.find?_cons, h]
    · split
      · next heq => by_cases h : head.1 = k <;> simp [h, heq]
      · next hne =>
        by_cases hk : head.1 = k
        · have : key ≠ k := fun h => hne (h.trans hk.symm)
          simp [hk, this]
        · simpa [List.find?_cons, hk] using ih

@[simp]
theorem get?_put (s : Settings) (key value k : String) :
    (s.put key value).get? k = if key = k then some value else s.get? k :=
  find?_insertEntry key value k s.entries

/-- The last value of a key in a list of entries. -/
def lastValue? (entries : List (String × String)) (key : String) : Option String :=
  (entries.reverse.find? fun e => e.1 == key).map (·.2)

theorem get?_putAll (s : Settings) (entries : List (String × String)) (key : String) :
    (s.putAll entries).get? key = (lastValue? entries key).or (s.get? key) := by
  induction entries generalizing s with
  | nil => simp [putAll, lastValue?]
  | cons e r ih =>
    have step : s.putAll (e :: r) = (s.put e.1 e.2).putAll r := rfl
    rw [step, ih, get?_put]
    simp only [lastValue?, List.reverse_cons, List.find?_append]
    cases hr : r.reverse.find? fun e => e.1 == key with
    | some v => simp
    | none => by_cases h : e.1 = key <;> simp [h]

@[simp]
theorem get?_ofList (entries : List (String × String)) (key : String) :
    (ofList entries).get? key = lastValue? entries key := by
  simp [ofList, get?_putAll]

/-- Keys are different, so an entry is found by its key. -/
theorem find?_eq_some_of_mem {entries : List (String × String)}
    (h : entries.Pairwise fun a b => a.1 < b.1) {e : String × String} (he : e ∈ entries) :
    entries.find? (fun x => x.1 == e.1) = some e := by
  induction entries with
  | nil => simp at he
  | cons head r ih =>
    have hr := List.pairwise_cons.1 h
    rcases List.mem_cons.1 he with rfl | he
    · simp
    · have hlt := hr.1 e he
      have hne : head.1 ≠ e.1 := fun heq => String.lt_irrefl _ (heq ▸ hlt)
      simp [hne, ih hr.2 he]

theorem mem_entries_iff (s : Settings) (key value : String) :
    (key, value) ∈ s.entries ↔ s.get? key = some value := by
  constructor
  · intro h
    simp only [get?]
    rw [show (fun e : String × String => e.1 == key) = fun e => e.1 == (key, value).1 from rfl,
      find?_eq_some_of_mem s.sorted h]
    rfl
  · intro h
    obtain ⟨e, he, rfl⟩ := Option.map_eq_some_iff.1 h
    have hk : e.1 = key := by simpa using List.find?_some he
    exact hk ▸ List.mem_of_find?_eq_some he

/-- If the members of a list are the graph of a partial function, the last value of a key is
the function's. -/
theorem lastValue?_eq_of_mem_iff {entries : List (String × String)} {f : String → Option String}
    (h : ∀ key value, (key, value) ∈ entries ↔ f key = some value) (key : String) :
    lastValue? entries key = f key := by
  cases hl : lastValue? entries key with
  | some v =>
    obtain ⟨e, he, rfl⟩ := Option.map_eq_some_iff.1 hl
    have hk : e.1 = key := by simpa using List.find?_some he
    have hm : e ∈ entries := List.mem_reverse.1 (List.mem_of_find?_eq_some he)
    exact ((h key e.2).1 (hk ▸ hm)).symm
  | none =>
    cases hf : f key with
    | none => rfl
    | some v =>
      simp only [lastValue?, Option.map_eq_none_iff, List.find?_eq_none] at hl
      exact absurd (by simp) (hl (key, v) (List.mem_reverse.2 ((h key v).2 hf)))

/-- In sorted entries the last value of a key is its only one. -/
theorem lastValue?_entries (s : Settings) (key : String) :
    lastValue? s.entries key = s.get? key :=
  lastValue?_eq_of_mem_iff s.mem_entries_iff key

@[simp]
theorem get?_override (s t : Settings) (key : String) :
    (s.override t).get? key = (t.get? key).or (s.get? key) := by
  rw [override, get?_putAll, lastValue?_entries]

/-- Sorted entries with the same members are the same. -/
theorem eq_of_mem_iff {a b : List (String × String)}
    (ha : a.Pairwise fun x y => x.1 < y.1) (hb : b.Pairwise fun x y => x.1 < y.1)
    (h : ∀ e, e ∈ a ↔ e ∈ b) : a = b := by
  induction a generalizing b with
  | nil =>
    cases b with
    | nil => rfl
    | cons y t => exact absurd ((h y).2 List.mem_cons_self) (by simp)
  | cons x r ih =>
    cases b with
    | nil => exact absurd ((h x).1 List.mem_cons_self) (by simp)
    | cons y t =>
      have hr := List.pairwise_cons.1 ha
      have ht := List.pairwise_cons.1 hb
      have hxy : x = y := by
        rcases List.mem_cons.1 ((h x).1 List.mem_cons_self) with rfl | hx
        · rfl
        · rcases List.mem_cons.1 ((h y).2 List.mem_cons_self) with hy | hy
          · exact hy.symm
          · exact absurd (String.lt_trans (ht.1 x hx) (hr.1 y hy)) (String.lt_irrefl _)
      subst hxy
      have irrefl : ∀ e, e ∈ r → e ≠ x := fun e he heq =>
        String.lt_irrefl _ (heq ▸ hr.1 e he)
      have irrefl' : ∀ e, e ∈ t → e ≠ x := fun e he heq =>
        String.lt_irrefl _ (heq ▸ ht.1 e he)
      refine congrArg (x :: ·) (ih hr.2 ht.2 fun e => ⟨fun he => ?_, fun he => ?_⟩)
      · rcases List.mem_cons.1 ((h e).1 (List.mem_cons_of_mem _ he)) with heq | he'
        · exact absurd heq (irrefl e he)
        · exact he'
      · rcases List.mem_cons.1 ((h e).2 (List.mem_cons_of_mem _ he)) with heq | he'
        · exact absurd heq (irrefl' e he)
        · exact he'

/-- Settings are what they answer. -/
theorem ext_get? {s t : Settings} (h : ∀ key, s.get? key = t.get? key) : s = t := by
  have he : s.entries = t.entries :=
    eq_of_mem_iff s.sorted t.sorted fun (k, v) => by rw [mem_entries_iff, mem_entries_iff, h]
  cases s
  cases t
  simpa using he

end Settings
end CatalogScout
