import CatalogScout.Proofs.Store.Hierarchy

/-!
Lookups without a client, and clients that live through changes of the tree.

`ConfigClient.lookup` reads a tree and keeps nothing.  A client that came out of earlier lookups
answers by it, whatever trees those looked at, and so does a client made for the occasion.  The
invariant is `Tended`: the client keeps the factory for file trees under its own scheme and stores
as that factory opens them.  It says nothing about which stores are kept, because a root with a
marker can be opened at any time.
-/

namespace CatalogScout

/-! ## Trees that change -/

/-- What may happen to a tree between two lookups. -/
inductive FileTree.Change where
  | write (target : List String) (octets : List UInt8)
  | makeDirectory (target : List String)
  | remove (target : List String)

def FileTree.changed (t : FileTree) : FileTree.Change → FileTree
  | .write target octets => t.write target octets
  | .makeDirectory target => t.makeDirectory target
  | .remove target => t.remove target

/-! ## Looking up without a client -/

namespace TreeStore

/-- The settings of the node at a path. -/
def lookup (t : FileTree) (p : Path) : Except Failure Settings :=
  match rootOf t p with
  | .error failure => .error failure
  | .ok root => settings t root ⟨.relative, p.segments.drop root.segments.length⟩

/-- The root of a store is a marked directory at the path or above it. -/
theorem marked_of_rootOf {t : FileTree} {p root : Path} (h : rootOf t p = .ok root) :
    root ∈ p.ancestry ∧ hasMarker t root = true := by
  rw [rootOf] at h
  cases hfind : p.ancestry.find? (hasMarker t) with
  | none =>
    rw [hfind] at h
    cases h
  | some found =>
    rw [hfind] at h
    obtain rfl : found = root := Except.ok.inj h
    exact ⟨List.mem_of_find?_eq_some hfind, List.find?_some hfind⟩

/-- The path lies in the store, and the store can be opened. -/
theorem openable_of_rootOf {t : FileTree} {p root : Path} (h : rootOf t p = .ok root) :
    t.isDirectory root = true ∧
      p.below? root = some ⟨.relative, p.segments.drop root.segments.length⟩ := by
  obtain ⟨hmem, hmarker⟩ := marked_of_rootOf h
  refine ⟨isDirectory_of_hasMarker hmarker, ?_⟩
  rw [Path.ancestry_eq] at hmem
  obtain ⟨k, -, rfl⟩ := List.mem_map.1 hmem
  rw [Path.below?_upper]
  simp [Path.upper, List.length_take]

end TreeStore

namespace ConfigClient

/-- What an address stands for in a tree. -/
def lookup (t : FileTree) (uri : String) : Except Failure Settings :=
  match target uri with
  | .error failure => .error failure
  | .ok (scheme, path) =>
    if scheme = "file" then TreeStore.lookup t path else .error (.unknownScheme scheme)

theorem lookup_of_target {t : FileTree} {uri : String} {path : Path}
    (h : target uri = .ok ("file", path)) : lookup t uri = TreeStore.lookup t path := by
  simp only [lookup, h, if_true]

/-! ## What clients keep -/

/-- The client keeps nothing but the factory for file trees, under its own scheme, and what it
opens. -/
structure Tended (c : ConfigClient FileTree) : Prop extends OverTrees c where
  scheme_eq : ∀ e ∈ c.factories, e.1 = "file"

namespace Tended

variable {c c' : ConfigClient FileTree} {t : FileTree} {scheme uri : String} {path : Path}
  {f : StoreFactory FileTree} {calls : List (StoreCall FileTree)}

theorem fresh : Tended (ConfigClient.fresh : ConfigClient FileTree) :=
  ⟨OverTrees.fresh, fun _ h => absurd h List.not_mem_nil⟩

theorem factories_getIn (t : FileTree) (c : ConfigClient FileTree) (f : StoreFactory FileTree)
    (scheme : String) (root path : Path) :
    (getIn t c f scheme root path).2.client.factories = c.factories := by
  rcases store_cases t c f scheme root with
    ⟨store, hkept⟩ | ⟨hnew, ⟨failure, hopen⟩ | ⟨store, hopen⟩⟩
  · rw [getIn_of_kept hkept]
  · rw [getIn_of_error hnew hopen]
  · rw [getIn_of_opened hnew hopen]

/-- A scheme for which there is a factory is the one of file trees. -/
theorem factoryFor_ok (h : Tended c)
    (hf : c.factoryFor .standard t scheme = (calls, .ok (f, c'))) :
    scheme = "file" ∧ f = TreeStore.factory ∧ Tended c' := by
  obtain ⟨hfactory, hover⟩ := h.toOverTrees.factoryFor_eq hf
  rcases factoryFor_ok_cases hf with ⟨hkept, -, rfl⟩ | ⟨-, ⟨maker, hmaker, -⟩, -, rfl⟩
  · exact ⟨h.scheme_eq _ (List.mem_of_lookup hkept), hfactory, h⟩
  · have hscheme : scheme = "file" := by
      rw [StoreRegistry.standard] at hmaker
      split at hmaker
      · assumption
      · cases hmaker
    refine ⟨hscheme, hfactory, hover, List.forall_mem_append.2 ⟨h.scheme_eq, ?_⟩⟩
    exact List.forall_mem_singleton.2 hscheme

/-- Whatever comes of a lookup, the client is tended after it. -/
theorem get_client (h : Tended c) (t : FileTree) (uri : String) :
    Tended (c.get .standard t uri).client := by
  refine ⟨h.toOverTrees.get_client t uri, ?_⟩
  rw [ConfigClient.get, traced]
  split
  · exact h.scheme_eq
  · split
    · exact h.scheme_eq
    · next hfactory =>
      obtain ⟨-, -, h'⟩ := h.factoryFor_ok hfactory
      split
      · exact h'.scheme_eq
      · rw [factories_getIn]
        exact h'.scheme_eq

theorem after (h : Tended c) (lookups : List (FileTree × String)) : Tended (c.after lookups) := by
  induction lookups generalizing c with
  | nil => exact h
  | cons l lookups ih => exact ih (h.get_client l.1 l.2)

theorem factoryFor_of_ne (h : Tended c) (hne : scheme ≠ "file") :
    c.factoryFor .standard t scheme = ([], .error (.unknownScheme scheme)) := by
  have hnone : c.factory? scheme = none := by
    cases hkept : c.factory? scheme with
    | none => rfl
    | some f => exact absurd (h.scheme_eq _ (List.mem_of_lookup hkept)) hne
  have hunknown : StoreRegistry.standard scheme = none := by
    rw [StoreRegistry.standard, if_neg hne]
  simp only [factoryFor, hnone, hunknown]

/-- A tended client answers as if it kept nothing. -/
theorem get_answer (h : Tended c) (t : FileTree) (uri : String) :
    (c.get .standard t uri).answer = lookup t uri := by
  cases htarget : target uri with
  | error failure => simp only [ConfigClient.get, traced, lookup, htarget]
  | ok address =>
    obtain ⟨scheme, path⟩ := address
    by_cases hscheme : scheme = "file"
    · subst hscheme
      rw [lookup_of_target htarget, TreeStore.lookup]
      cases hroot : TreeStore.rootOf t path with
      | error failure => exact h.toOverTrees.get_answer_of_no_root htarget hroot
      | ok root =>
        obtain ⟨hdirectory, hnode⟩ := TreeStore.openable_of_rootOf hroot
        exact h.toOverTrees.get_answer_of_root htarget hroot hdirectory hnode
    · simp only [ConfigClient.get, traced, lookup, htarget, h.factoryFor_of_ne hscheme,
        if_neg hscheme]

end Tended

/-! ## Histories -/

/-- What happens in the life of a client. -/
inductive Step where
  | lookup (uri : String)
  | change (change : FileTree.Change)

/-- The answers of one client that is kept through a history. -/
def answers (c : ConfigClient FileTree) (t : FileTree) : List Step → List (Except Failure Settings)
  | [] => []
  | .change change :: history => answers c (t.changed change) history
  | .lookup uri :: history =>
    let o := c.get .standard t uri
    o.answer :: answers o.client t history

/-- The answers of clients that are made anew, each for one lookup. -/
def freshAnswers (t : FileTree) : List Step → List (Except Failure Settings)
  | [] => []
  | .change change :: history => freshAnswers (t.changed change) history
  | .lookup uri :: history =>
    (fresh.get .standard t uri).answer :: freshAnswers t history

theorem Tended.answers_eq {c : ConfigClient FileTree} (h : Tended c) (t : FileTree)
    (history : List Step) : answers c t history = freshAnswers t history := by
  induction history generalizing c t with
  | nil => rfl
  | cons step history ih =>
    cases step with
    | change change => exact ih h (t.changed change)
    | lookup uri =>
      have hsame : (c.get .standard t uri).answer
          = (ConfigClient.fresh.get .standard t uri).answer := by
        rw [h.get_answer, Tended.fresh.get_answer]
      rw [answers, freshAnswers, hsame, ih (h.get_client t uri) t]

/-- A client gives the answers that clients made anew would give, through every history of lookups
that succeed or fail and of changes to the tree.  Such an answer is what the address stands for in
the tree of its time. -/
theorem caches_invisible (t : FileTree) (history : List Step) :
    answers fresh t history = freshAnswers t history ∧
      ∀ t' uri, (fresh.get .standard t' uri).answer = lookup t' uri :=
  ⟨Tended.fresh.answers_eq t history, Tended.fresh.get_answer⟩

end ConfigClient
end CatalogScout
