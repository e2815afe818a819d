import CatalogScout.ConfigClient
import CatalogScout.Proofs.Lists

/-!
Clients over file trees, in every state that lookups lead to.

What a lookup does with the factories and the stores that it finds in its client is told first, for
clients over anything.

A client keeps factories and opened stores from one lookup to the next, while the tree may change
in between.  What it keeps is always the factory for file trees and stores as that factory opens
them, and such a store reads the tree of the lookup that asks.  So a lookup answers what a fresh
client would answer.
-/

namespace CatalogScout
namespace TreeStore

/-- The store at a root. -/
def opened (root : Path) : Store FileTree := ⟨fun t node => settings t root node⟩

theorem openAt_eq_of_ok {t : FileTree} {root : Path} {s : Store FileTree}
    (h : factory.openAt t root = .ok s) : s = opened root := by
  simp only [factory] at h
  split at h
  · exact (Except.ok.inj h).symm
  · cases h

theorem openAt_ok {t : FileTree} {root : Path} (h : t.isDirectory root = true) :
    factory.openAt t root = .ok (opened root) := by
  simp only [factory, checkRoot, h, if_true]
  rfl

end TreeStore

namespace ConfigClient

/-! ## Steps of a lookup -/

section Steps

variable {World : Type} {registry : StoreRegistry World} {world : World}
  {c c' : ConfigClient World} {scheme : String} {root path : Path} {factory : StoreFactory World}
  {store : Store World} {failure : Failure} {calls : List (StoreCall World)}

/-- A factory that a lookup goes on with was kept, or it has just been made. -/
theorem factoryFor_ok_cases
    (h : c.factoryFor registry world scheme = (calls, .ok (factory, c'))) :
    (c.factory? scheme = some factory ∧ calls = [] ∧ c' = c) ∨
      (c.factory? scheme = none ∧
        (∃ maker, registry scheme = some maker ∧ maker world = .ok factory) ∧
        calls = [.make scheme (.ok factory)] ∧
        c' = { c with factories := c.factories ++ [(scheme, factory)] }) := by
  unfold factoryFor at h
  split at h
  · next hkept =>
    cases h
    exact Or.inl ⟨hkept, rfl, rfl⟩
  · next hnone =>
    split at h
    · cases h
    · next maker hmaker =>
      split at h
      · cases h
      · next hmade =>
        cases h
        exact Or.inr ⟨hnone, ⟨maker, hmaker, hmade⟩, rfl, rfl⟩

/-- Without a factory there was none before, and there is no maker or it has just failed. -/
theorem factoryFor_error_cases
    (h : c.factoryFor registry world scheme = (calls, .error failure)) :
    c.factory? scheme = none ∧
      ((registry scheme = none ∧ failure = .unknownScheme scheme ∧ calls = []) ∨
        ∃ maker, registry scheme = some maker ∧ maker world = .error failure ∧
          calls = [.make scheme (.error failure)]) := by
  unfold factoryFor at h
  split at h
  · cases h
  · next hnone =>
    refine ⟨hnone, ?_⟩
    split at h
    · next hunknown =>
      cases h
      exact Or.inl ⟨hunknown, rfl, rfl⟩
    · next maker hmaker =>
      split at h
      · next hmade =>
        cases h
        exact Or.inr ⟨maker, hmaker, hmade, rfl⟩
      · cases h

theorem getIn_of_error (hnew : c.store? scheme root = none)
    (hopen : factory.openAt world root = .error failure) :
    getIn world c factory scheme root path
      = ([.opening scheme factory root (.error failure)],
          ⟨.error failure, some (scheme, root), c⟩) := by
  simp only [getIn, hnew, hopen]

theorem getIn_of_opened (hnew : c.store? scheme root = none)
    (hopen : factory.openAt world root = .ok store) :
    getIn world c factory scheme root path
      = (.opening scheme factory root (.ok store)
            :: (settingsIn world scheme store root path).1,
          ⟨(settingsIn world scheme store root path).2, some (scheme, root),
            { c with stores := c.stores ++ [((scheme, root), store)] }⟩) := by
  simp only [getIn, hnew, hopen]

theorem getIn_of_kept (hkept : c.store? scheme root = some store) :
    getIn world c factory scheme root path
      = ((settingsIn world scheme store root path).1,
          ⟨(settingsIn world scheme store root path).2, none, c⟩) := by
  simp only [getIn, hkept]

/-- A store is kept, or it cannot be opened, or it is opened now. -/
theorem store_cases (world : World) (c : ConfigClient World) (factory : StoreFactory World)
    (scheme : String) (root : Path) :
    (∃ store, c.store? scheme root = some store) ∨
      (c.store? scheme root = none ∧
        ((∃ failure, factory.openAt world root = .error failure) ∨
          ∃ store, factory.openAt world root = .ok store)) := by
  cases c.store? scheme root with
  | some store => exact Or.inl ⟨store, rfl⟩
  | none =>
    refine Or.inr ⟨rfl, ?_⟩
    cases factory.openAt world root with
    | error failure => exact Or.inl ⟨failure, rfl⟩
    | ok store => exact Or.inr ⟨store, rfl⟩

end Steps

/-! ## Clients over file trees -/

/-- The client keeps nothing but the factory for file trees and what it opens. -/
structure OverTrees (c : ConfigClient FileTree) : Prop where
  factory_eq : ∀ e ∈ c.factories, e.2 = TreeStore.factory
  store_eq : ∀ e ∈ c.stores, e.2 = TreeStore.opened e.1.2

/-- A client after some lookups, each in the tree that was there at its time. -/
def after (c : ConfigClient FileTree) (lookups : List (FileTree × String)) :
    ConfigClient FileTree :=
  lookups.foldl (fun c l => (c.get .standard l.1 l.2).client) c

namespace OverTrees

theorem fresh : OverTrees (ConfigClient.fresh : ConfigClient FileTree) :=
  ⟨fun _ h => absurd h List.not_mem_nil, fun _ h => absurd h List.not_mem_nil⟩

section Lookup

variable {c c' : ConfigClient FileTree} {t : FileTree} {scheme : String} {root path : Path}
  {f : StoreFactory FileTree} {s : Store FileTree} {calls : List (StoreCall FileTree)}

theorem factory?_eq (h : OverTrees c) (hf : c.factory? scheme = some f) : f = TreeStore.factory :=
  h.factory_eq _ (List.mem_of_lookup hf)

theorem store?_eq (h : OverTrees c) (hs : c.store? scheme root = some s) :
    s = TreeStore.opened root :=
  h.store_eq _ (List.mem_of_lookup hs)

theorem standard_eq {maker : StoreMaker FileTree} (h : StoreRegistry.standard scheme = some maker) :
    maker t = .ok TreeStore.factory := by
  rw [StoreRegistry.standard] at h
  split at h
  · obtain rfl := Option.some.inj h
    rfl
  · cases h

/-- Whatever the scheme, the factory is the one for file trees. -/
theorem factoryFor_eq (h : OverTrees c)
    (hf : c.factoryFor .standard t scheme = (calls, .ok (f, c'))) :
    f = TreeStore.factory ∧ OverTrees c' := by
  rcases factoryFor_ok_cases hf with ⟨hkept, -, rfl⟩ | ⟨-, ⟨maker, hmaker, hmade⟩, -, rfl⟩
  · exact ⟨h.factory?_eq hkept, h⟩
  · have hfactory : f = TreeStore.factory := Except.ok.inj (hmade.symm.trans (standard_eq hmaker))
    refine ⟨hfactory, List.forall_mem_append.2 ⟨h.factory_eq, ?_⟩, h.store_eq⟩
    exact List.forall_mem_singleton.2 hfactory

theorem getIn_client (h : OverTrees c) :
    OverTrees (getIn t c TreeStore.factory scheme root path).2.client := by
  rcases store_cases t c TreeStore.factory scheme root with
    ⟨store, hkept⟩ | ⟨hnew, ⟨failure, hopen⟩ | ⟨store, hopen⟩⟩
  · rw [getIn_of_kept hkept]
    exact h
  · rw [getIn_of_error hnew hopen]
    exact h
  · rw [getIn_of_opened hnew hopen]
    refine ⟨h.factory_eq, List.forall_mem_append.2 ⟨h.store_eq, ?_⟩⟩
    exact List.forall_mem_singleton.2 (TreeStore.openAt_eq_of_ok hopen)

theorem get_client (h : OverTrees c) (t : FileTree) (uri : String) :
    OverTrees (c.get .standard t uri).client := by
  rw [ConfigClient.get, traced]
  split
  · exact h
  · split
    · exact h
    · next hfactory =>
      obtain ⟨rfl, h'⟩ := h.factoryFor_eq hfactory
      split
      · exact h'
      · exact h'.getIn_client

theorem after (h : OverTrees c) (lookups : List (FileTree × String)) :
    OverTrees (c.after lookups) := by
  induction lookups generalizing c with
  | nil => exact h
  | cons l lookups ih => exact ih (h.get_client l.1 l.2)

/-! ## What a lookup answers -/

/-- A store that holds a path has a directory as its root. -/
theorem getIn_answer (h : OverTrees c) (hroot : t.isDirectory root = true) {node : Path}
    (hnode : path.below? root = some node) :
    (getIn t c TreeStore.factory scheme root path).2.answer
      = TreeStore.settings t root node := by
  have hopen : TreeStore.factory.openAt t root = .ok (TreeStore.opened root) :=
    TreeStore.openAt_ok hroot
  cases hkept : c.store? scheme root with
  | some store =>
    rw [getIn_of_kept hkept, h.store?_eq hkept]
    simp only [settingsIn, hnode, TreeStore.opened]
  | none =>
    rw [getIn_of_opened hkept hopen]
    simp only [settingsIn, hnode, TreeStore.opened]

theorem factoryFor_file (h : OverTrees c) :
    ∃ calls c', c.factoryFor .standard t "file" = (calls, .ok (TreeStore.factory, c')) := by
  rw [factoryFor]
  split
  · next hkept => exact ⟨[], c, by rw [h.factory?_eq hkept]⟩
  · exact ⟨_, _, rfl⟩

theorem get_answer_of_no_root (h : OverTrees c) {uri : String} {failure : Failure}
    (htarget : target uri = .ok ("file", path)) (hroot : TreeStore.rootOf t path = .error failure) :
    (c.get .standard t uri).answer = .error failure := by
  obtain ⟨calls, c', hfactory⟩ := h.factoryFor_file (t := t)
  have hof : TreeStore.factory.rootOf t path = .error failure := hroot
  simp only [ConfigClient.get, traced, htarget, hfactory, hof]

theorem get_answer_of_root (h : OverTrees c) {uri : String} {node : Path}
    (htarget : target uri = .ok ("file", path)) (hroot : TreeStore.rootOf t path = .ok root)
    (hdirectory : t.isDirectory root = true) (hnode : path.below? root = some node) :
    (c.get .standard t uri).answer = TreeStore.settings t root node := by
  obtain ⟨calls, c', hfactory⟩ := h.factoryFor_file (t := t)
  obtain ⟨-, h'⟩ := h.factoryFor_eq hfactory
  have hof : TreeStore.factory.rootOf t path = .ok root := hroot
  simp only [ConfigClient.get, traced, htarget, hfactory, hof]
  exact h'.getIn_answer hdirectory hnode

end Lookup

end OverTrees
end ConfigClient
end CatalogScout
