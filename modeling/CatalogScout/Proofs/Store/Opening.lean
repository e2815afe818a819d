import CatalogScout.Proofs.Store.Client
import CatalogScout.Proofs.Store.Scheme

/-!
Clients over whatever is registered: what they ask of makers, factories and stores, and how often.

`traced` is a lookup that writes down its calls.  What a client keeps is what those calls brought it
(`Grows`): a factory that was made, a store that was opened.  A maker is called only for a scheme
without a factory and a store is opened only for a scheme and a root without a store, so nothing is
made or opened twice, and what is kept stays.
-/

namespace CatalogScout

namespace ConfigClient

variable {World : Type}

/-! ## What calls bring -/

namespace StoreCall

def made? : StoreCall World → Option (String × StoreFactory World)
  | .make scheme (.ok factory) => some (scheme, factory)
  | _ => none

def opened? : StoreCall World → Option ((String × Path) × Store World)
  | .opening scheme _ root (.ok store) => some ((scheme, root), store)
  | _ => none

/-- The factories that were made, by scheme. -/
def made (calls : List (StoreCall World)) : List (String × StoreFactory World) :=
  calls.filterMap made?

/-- The stores that were opened, by scheme and root. -/
def opened (calls : List (StoreCall World)) : List ((String × Path) × Store World) :=
  calls.filterMap opened?

/-- What is called is what the client keeps. -/
def KeptBy (c : ConfigClient World) : StoreCall World → Prop
  | .make _ _ => True
  | .find scheme factory _ _ => c.factory? scheme = some factory
  | .opening scheme factory _ _ => c.factory? scheme = some factory
  | .read scheme root store _ _ => c.store? scheme root = some store

/-- The call is for something that the client does not keep yet. -/
def NewTo (c : ConfigClient World) : StoreCall World → Prop
  | .make scheme _ => c.factory? scheme = none
  | .opening scheme _ root _ => c.store? scheme root = none
  | _ => True

end StoreCall

open StoreCall

/-- The client comes to keep what the calls bring, each under a key of its own.  The calls are for
what it did not keep before, and go to nothing else than what it keeps then. -/
structure Grows (c : ConfigClient World) (calls : List (StoreCall World))
    (c' : ConfigClient World) : Prop where
  factories_eq : c'.factories = c.factories ++ made calls
  stores_eq : c'.stores = c.stores ++ opened calls
  factories_nodup : (c.factories.map Prod.fst).Nodup → (c'.factories.map Prod.fst).Nodup
  stores_nodup : (c.stores.map Prod.fst).Nodup → (c'.stores.map Prod.fst).Nodup
  kept : ∀ call ∈ calls, call.KeptBy c'
  new : ∀ call ∈ calls, call.NewTo c

namespace Grows

variable {c c' c'' : ConfigClient World} {calls more : List (StoreCall World)} {scheme : String}
  {root : Path} {factory : StoreFactory World} {store : Store World}

theorem refl (c : ConfigClient World) : Grows c [] c :=
  ⟨(List.append_nil _).symm, (List.append_nil _).symm, id, id, fun _ h => absurd h List.not_mem_nil,
    fun _ h => absurd h List.not_mem_nil⟩

theorem factory? (h : Grows c calls c') (hkept : c.factory? scheme = some factory) :
    c'.factory? scheme = some factory := by
  unfold ConfigClient.factory? at hkept ⊢
  rw [h.factories_eq, List.lookup_append, hkept, Option.some_or]

theorem store? (h : Grows c calls c') (hkept : c.store? scheme root = some store) :
    c'.store? scheme root = some store := by
  unfold ConfigClient.store? at hkept ⊢
  rw [h.stores_eq, List.lookup_append, hkept, Option.some_or]

theorem keptBy (h : Grows c calls c') {call : StoreCall World} (hkept : call.KeptBy c) :
    call.KeptBy c' := by
  cases call with
  | make scheme answer => trivial
  | find scheme factory path answer => exact h.factory? hkept
  | opening scheme factory root answer => exact h.factory? hkept
  | read scheme root store node answer => exact h.store? hkept

theorem newTo (h : Grows c calls c') {call : StoreCall World} (hnew : call.NewTo c') :
    call.NewTo c := by
  cases call with
  | make scheme answer =>
    exact Option.eq_none_iff_forall_ne_some.2 fun factory hkept =>
      absurd ((h.factory? hkept).symm.trans hnew) nofun
  | opening scheme factory root answer =>
    exact Option.eq_none_iff_forall_ne_some.2 fun store hkept =>
      absurd ((h.store? hkept).symm.trans hnew) nofun
  | find scheme factory path answer => trivial
  | read scheme root store node answer => trivial

theorem trans (h : Grows c calls c') (h' : Grows c' more c'') : Grows c (calls ++ more) c'' where
  factories_eq := by
    rw [h'.factories_eq, h.factories_eq, made, made, made, List.filterMap_append,
      List.append_assoc]
  stores_eq := by
    rw [h'.stores_eq, h.stores_eq, opened, opened, opened, List.filterMap_append,
      List.append_assoc]
  factories_nodup hnodup := h'.factories_nodup (h.factories_nodup hnodup)
  stores_nodup hnodup := h'.stores_nodup (h.stores_nodup hnodup)
  kept call hcall := by
    rcases List.mem_append.1 hcall with hcall | hcall
    · exact h'.keptBy (h.kept call hcall)
    · exact h'.kept call hcall
  new call hcall := by
    rcases List.mem_append.1 hcall with hcall | hcall
    · exact h.new call hcall
    · exact h.newTo (h'.new call hcall)

/-- A call that brings nothing leaves the client as it is. -/
theorem of_idle {call : StoreCall World} (hmade : call.made? = none) (hopened : call.opened? = none)
    (hkept : call.KeptBy c) (hnew : call.NewTo c) : Grows c [call] c where
  factories_eq := by rw [made, List.filterMap_cons_none hmade]; exact (List.append_nil _).symm
  stores_eq := by rw [opened, List.filterMap_cons_none hopened]; exact (List.append_nil _).symm
  factories_nodup := id
  stores_nodup := id
  kept _ hcall := List.mem_singleton.1 hcall ▸ hkept
  new _ hcall := List.mem_singleton.1 hcall ▸ hnew

theorem find (hfactory : c.factory? scheme = some factory) (path : Path)
    (answer : Except Failure Path) : Grows c [.find scheme factory path answer] c :=
  of_idle rfl rfl hfactory trivial

theorem make (hnew : c.factory? scheme = none) (factory : StoreFactory World) :
    Grows c [.make scheme (.ok factory)]
      { c with factories := c.factories ++ [(scheme, factory)] } where
  factories_eq := rfl
  stores_eq := (List.append_nil _).symm
  factories_nodup := List.nodup_keys_concat hnew
  stores_nodup := id
  kept _ hcall := List.mem_singleton.1 hcall ▸ trivial
  new _ hcall := List.mem_singleton.1 hcall ▸ hnew

theorem opening (hnew : c.store? scheme root = none)
    (hfactory : c.factory? scheme = some factory) (store : Store World) :
    Grows c [.opening scheme factory root (.ok store)]
      { c with stores := c.stores ++ [((scheme, root), store)] } where
  factories_eq := (List.append_nil _).symm
  stores_eq := rfl
  factories_nodup := id
  stores_nodup := List.nodup_keys_concat hnew
  kept _ hcall := List.mem_singleton.1 hcall ▸ hfactory
  new _ hcall := List.mem_singleton.1 hcall ▸ hnew

/-! ### Lookups -/

variable {registry : StoreRegistry World} {world : World} {path : Path}

theorem factoryFor_ok
    (h : c.factoryFor registry world scheme = (calls, .ok (factory, c'))) :
    Grows c calls c' ∧ c'.factory? scheme = some factory := by
  rcases factoryFor_ok_cases h with ⟨hkept, rfl, rfl⟩ | ⟨hnone, -, rfl, rfl⟩
  · exact ⟨refl _, hkept⟩
  · exact ⟨make hnone factory, List.lookup_concat_self factory hnone⟩

theorem factoryFor_error {failure : Failure}
    (h : c.factoryFor registry world scheme = (calls, .error failure)) : Grows c calls c := by
  obtain ⟨hnone, ⟨-, -, rfl⟩ | ⟨maker, -, -, rfl⟩⟩ := factoryFor_error_cases h
  · exact refl c
  · exact of_idle rfl rfl trivial hnone

theorem settingsIn (hkept : c.store? scheme root = some store) :
    Grows c (settingsIn world scheme store root path).1 c := by
  unfold ConfigClient.settingsIn
  split
  · exact refl c
  · exact of_idle rfl rfl hkept trivial

theorem getIn (hfactory : c.factory? scheme = some factory) :
    Grows c (getIn world c factory scheme root path).1
      (getIn world c factory scheme root path).2.client := by
  rcases store_cases world c factory scheme root with
    ⟨store, hkept⟩ | ⟨hnew, ⟨failure, hopen⟩ | ⟨store, hopen⟩⟩
  · rw [getIn_of_kept hkept]
    exact settingsIn hkept
  · rw [getIn_of_error hnew hopen]
    exact of_idle rfl rfl hfactory hnew
  · rw [getIn_of_opened hnew hopen]
    exact (opening hnew hfactory store).trans (settingsIn (List.lookup_concat_self store hnew))

/-- Whatever comes of a lookup, the client has grown by its calls. -/
theorem traced (registry : StoreRegistry World) (world : World) (c : ConfigClient World)
    (uri : String) :
    Grows c (c.traced registry world uri).1 (c.get registry world uri).client := by
  rw [ConfigClient.get]
  unfold ConfigClient.traced
  split
  · exact refl c
  · split
    · next hfactory => exact factoryFor_error hfactory
    · next hmade =>
      obtain ⟨hgrows, hfactory⟩ := factoryFor_ok hmade
      split
      · exact hgrows.trans (find hfactory _ _)
      · exact hgrows.trans ((find hfactory _ _).trans (getIn hfactory))

end Grows

/-! ## How a lookup goes -/

section Lookup

variable {registry : StoreRegistry World} {world : World} {c c' : ConfigClient World}
  {uri scheme : String} {path root : Path} {factory : StoreFactory World} {store : Store World}
  {calls : List (StoreCall World)} {failure : Failure}

/-- The rest of a lookup that has a factory: the root is looked for, and the store there asked. -/
def searched (world : World) (c : ConfigClient World) (factory : StoreFactory World)
    (scheme : String) (path : Path) : List (StoreCall World) × Outcome World :=
  match factory.rootOf world path with
  | .error failure => ([.find scheme factory path (.error failure)], ⟨.error failure, none, c⟩)
  | .ok root =>
    (.find scheme factory path (.ok root) :: (getIn world c factory scheme root path).1,
      (getIn world c factory scheme root path).2)

theorem searched_of_error (hroot : factory.rootOf world path = .error failure) :
    searched world c factory scheme path
      = ([.find scheme factory path (.error failure)], ⟨.error failure, none, c⟩) := by
  simp only [searched, hroot]

theorem searched_of_root (hroot : factory.rootOf world path = .ok root) :
    searched world c factory scheme path
      = (.find scheme factory path (.ok root) :: (getIn world c factory scheme root path).1,
          (getIn world c factory scheme root path).2) := by
  simp only [searched, hroot]

theorem traced_of_factory (htarget : target uri = .ok (scheme, path))
    (hfactory : c.factoryFor registry world scheme = (calls, .ok (factory, c'))) :
    c.traced registry world uri = (calls ++ (searched world c' factory scheme path).1,
      (searched world c' factory scheme path).2) := by
  cases hroot : factory.rootOf world path with
  | error failure =>
    rw [searched_of_error hroot]
    simp only [traced, htarget, hfactory, hroot]
  | ok root =>
    rw [searched_of_root hroot]
    simp only [traced, htarget, hfactory, hroot]

theorem stores_factoryFor
    (h : c.factoryFor registry world scheme = (calls, .ok (factory, c'))) :
    c'.stores = c.stores := by
  rcases factoryFor_ok_cases h with ⟨-, -, rfl⟩ | ⟨-, -, -, rfl⟩
  · rfl
  · rfl

/-- The factory that a lookup asks for the root is kept under the scheme when it is over. -/
theorem factory?_get (htarget : target uri = .ok (scheme, path))
    (hfactory : c.factoryFor registry world scheme = (calls, .ok (factory, c'))) :
    (c.get registry world uri).client.factory? scheme = some factory := by
  obtain ⟨-, hkept⟩ := Grows.factoryFor_ok hfactory
  rw [ConfigClient.get, traced_of_factory htarget hfactory]
  cases hroot : factory.rootOf world path with
  | error failure =>
    rw [searched_of_error hroot]
    exact hkept
  | ok root =>
    rw [searched_of_root hroot]
    exact (Grows.getIn hkept).factory? hkept

/-- A client that has a factory when the lookup is over had it when it asked for the root. -/
theorem traced_of_kept (htarget : target uri = .ok (scheme, path))
    (hkept : (c.get registry world uri).client.factory? scheme = some factory) :
    ∃ calls c', c'.stores = c.stores ∧
      c.traced registry world uri = (calls ++ (searched world c' factory scheme path).1,
        (searched world c' factory scheme path).2) := by
  cases hfactory : c.factoryFor registry world scheme with
  | mk calls answer =>
    cases answer with
    | error failure =>
      -- Without a factory there was none before and none is added.
      rw [ConfigClient.get] at hkept
      simp only [traced, htarget, hfactory] at hkept
      rw [factoryFor, hkept] at hfactory
      cases hfactory
    | ok found =>
      obtain ⟨factory', c'⟩ := found
      obtain rfl := Option.some.inj (hkept.symm.trans (factory?_get htarget hfactory))
      exact ⟨calls, c', stores_factoryFor hfactory, traced_of_factory htarget hfactory⟩

/-! ### Answers -/

/-- The store that the client has under the scheme and the root answers. -/
theorem getIn_of_store
    (hkept : (getIn world c factory scheme root path).2.client.store? scheme root
      = some store) :
    (getIn world c factory scheme root path).2.answer
        = (settingsIn world scheme store root path).2 ∧
      ∀ call ∈ (settingsIn world scheme store root path).1,
        call ∈ (getIn world c factory scheme root path).1 := by
  rcases store_cases world c factory scheme root with
    ⟨store', hbefore⟩ | ⟨hnew, ⟨failure, hopen⟩ | ⟨store', hopen⟩⟩
  · rw [getIn_of_kept hbefore] at hkept ⊢
    obtain rfl := Option.some.inj (hbefore.symm.trans hkept)
    exact ⟨rfl, fun _ hcall => hcall⟩
  · rw [getIn_of_error hnew hopen, hnew] at hkept
    cases hkept
  · rw [getIn_of_opened hnew hopen] at hkept ⊢
    obtain rfl := Option.some.inj ((List.lookup_concat_self store' hnew).symm.trans hkept)
    exact ⟨rfl, fun _ hcall => List.mem_cons_of_mem _ hcall⟩

end Lookup

/-- What a lookup does, told by what the client keeps when the lookup is over: the factory that it
keeps then under the scheme of the address is the one that was asked for the root, and the store
that it keeps then under the scheme and the root is the one that answered. -/
structure Goes (registry : StoreRegistry World) (world : World) (c : ConfigClient World)
    (uri : String) (calls : List (StoreCall World)) (o : Outcome World) : Prop where
  malformed : ∀ failure, target uri = .error failure →
    calls = [] ∧ o = ⟨.error failure, none, c⟩
  unknown : ∀ scheme path, target uri = .ok (scheme, path) → c.factory? scheme = none →
    registry scheme = none → calls = [] ∧ o = ⟨.error (.unknownScheme scheme), none, c⟩
  makes : ∀ scheme path maker, target uri = .ok (scheme, path) → c.factory? scheme = none →
    registry scheme = some maker →
      .make scheme (maker world) ∈ calls ∧
        (∀ factory, maker world = .ok factory → o.client.factory? scheme = some factory) ∧
        ∀ failure, maker world = .error failure →
          calls = [.make scheme (.error failure)] ∧ o = ⟨.error failure, none, c⟩
  /-- The root is looked for each time, by the one factory. -/
  finds : ∀ scheme path factory, target uri = .ok (scheme, path) →
    o.client.factory? scheme = some factory →
      .find scheme factory path (factory.rootOf world path) ∈ calls ∧
        ∀ failure, factory.rootOf world path = .error failure →
          o.answer = .error failure ∧ o.client.stores = c.stores
  /-- A store is opened where none is open, also after it could not be opened before. -/
  opens : ∀ scheme path factory root, target uri = .ok (scheme, path) →
    o.client.factory? scheme = some factory → factory.rootOf world path = .ok root →
    c.store? scheme root = none →
      .opening scheme factory root (factory.openAt world root) ∈ calls ∧
        (∀ store, factory.openAt world root = .ok store →
          o.client.store? scheme root = some store) ∧
        ∀ failure, factory.openAt world root = .error failure →
          o.answer = .error failure ∧ o.client.stores = c.stores
  /-- The one store answers, for the path below its root. -/
  answers : ∀ scheme path factory root store, target uri = .ok (scheme, path) →
    o.client.factory? scheme = some factory → factory.rootOf world path = .ok root →
    o.client.store? scheme root = some store →
      (∀ node, path.below? root = some node →
        .read scheme root store node (store.settings world node) ∈ calls ∧
          o.answer = store.settings world node) ∧
        (path.below? root = none → o.answer = .error (.outsideStore path.text root.bareText))

theorem goes_get (registry : StoreRegistry World) (world : World) (c : ConfigClient World)
    (uri : String) :
    Goes registry world c uri (c.traced registry world uri).1 (c.get registry world uri) where
  malformed failure htarget := by
    simp only [ConfigClient.get, traced, htarget, and_self]
  unknown scheme path htarget hnone hunknown := by
    simp only [ConfigClient.get, traced, htarget, factoryFor, hnone, hunknown, and_self]
  makes scheme path maker htarget hnone hmaker := by
    cases hmade : maker world with
    | error failure =>
      simp only [ConfigClient.get, traced, htarget, factoryFor, hnone, hmaker, hmade]
      refine ⟨List.mem_singleton_self _, fun factory h => ?_, fun failure' h => ?_⟩
      · cases h
      · cases h
        exact ⟨rfl, rfl⟩
    | ok factory =>
      have hfactory : c.factoryFor registry world scheme = ([.make scheme (.ok factory)],
          .ok (factory, { c with factories := c.factories ++ [(scheme, factory)] })) := by
        simp only [factoryFor, hnone, hmaker, hmade]
      refine ⟨?_, fun factory' h => ?_, fun failure h => ?_⟩
      · rw [traced_of_factory htarget hfactory]
        exact List.mem_cons_self
      · cases h
        exact factory?_get htarget hfactory
      · cases h
  finds scheme path factory htarget hkept := by
    obtain ⟨calls, c', hstores, htraced⟩ := traced_of_kept htarget hkept
    rw [ConfigClient.get, htraced]
    cases hroot : factory.rootOf world path with
    | error failure =>
      rw [searched_of_error hroot]
      refine ⟨by simp, fun failure' h => ?_⟩
      cases h
      exact ⟨rfl, hstores⟩
    | ok root =>
      rw [searched_of_root hroot]
      refine ⟨by simp, fun failure h => ?_⟩
      cases h
  opens scheme path factory root htarget hkept hroot hnew := by
    obtain ⟨calls, c', hstores, htraced⟩ := traced_of_kept htarget hkept
    have hnew' : c'.store? scheme root = none := by rw [store?, hstores]; exact hnew
    rw [ConfigClient.get, htraced, searched_of_root hroot]
    cases hopen : factory.openAt world root with
    | error failure =>
      simp only [getIn_of_error hnew' hopen]
      refine ⟨by simp, fun store h => ?_, fun failure' h => ?_⟩
      · cases h
      · cases h
        exact ⟨rfl, hstores⟩
    | ok store =>
      simp only [getIn_of_opened hnew' hopen]
      refine ⟨by simp, fun store' h => ?_, fun failure h => ?_⟩
      · cases h
        exact List.lookup_concat_self store hnew'
      · cases h
  answers scheme path factory root store htarget hkept hroot hstore := by
    obtain ⟨calls, c', -, htraced⟩ := traced_of_kept htarget hkept
    rw [ConfigClient.get, htraced, searched_of_root hroot] at hstore ⊢
    obtain ⟨hanswer, hcalls⟩ := getIn_of_store hstore
    refine ⟨fun node hnode => ⟨?_, ?_⟩, fun hnone => ?_⟩
    · refine List.mem_append_right _ (List.mem_cons_of_mem _ (hcalls _ ?_))
      simp only [settingsIn, hnode, List.mem_singleton]
    · simp only [hanswer, settingsIn, hnode]
    · simp only [hanswer, settingsIn, hnone]

end ConfigClient

/-! ## Histories -/

/-- A client, what is registered, and the calls of the client's lookups. -/
structure ClientLife (World : Type) where
  registry : StoreRegistry World
  client : ConfigClient World
  calls : List (ConfigClient.StoreCall World)

namespace ClientLife

open ConfigClient StoreCall

variable {World : Type}

/-- What happens in the life of a client.  Every lookup sees a world of its own, in which a maker, a
factory or a store may fail that does not fail in another. -/
inductive Step (World : Type) where
  | lookup (world : World) (uri : String)
  | register (scheme : String) (maker : StoreMaker World)

def step (l : ClientLife World) : Step World → ClientLife World
  | .lookup world uri =>
    { l with
      client := (l.client.get l.registry world uri).client
      calls := l.calls ++ (l.client.traced l.registry world uri).1 }
  | .register scheme maker => { l with registry := l.registry.register scheme maker }

/-- A life from a fresh client on. -/
def lived (registry : StoreRegistry World) (history : List (Step World)) : ClientLife World :=
  history.foldl step ⟨registry, .fresh, []⟩

theorem grows_foldl (l : ClientLife World) (history : List (Step World)) :
    ∃ more, (history.foldl step l).calls = l.calls ++ more ∧
      Grows l.client more (history.foldl step l).client := by
  induction history generalizing l with
  | nil => exact ⟨[], (List.append_nil _).symm, .refl _⟩
  | cons s history ih =>
    obtain ⟨more, hcalls, hgrows⟩ := ih (l.step s)
    rw [List.foldl_cons]
    cases s with
    | lookup world uri =>
      refine ⟨_, hcalls.trans (List.append_assoc _ _ _), ?_⟩
      exact (Grows.traced l.registry world l.client uri).trans hgrows
    | register scheme maker => exact ⟨more, hcalls, hgrows⟩

theorem lived_append (registry : StoreRegistry World) (history later : List (Step World)) :
    lived registry (history ++ later) = later.foldl step (lived registry history) :=
  List.foldl_append

/-- The client has grown by all the calls of its life. -/
theorem grows_lived (registry : StoreRegistry World) (history : List (Step World)) :
    Grows .fresh (lived registry history).calls (lived registry history).client := by
  obtain ⟨more, hcalls, hgrows⟩ := grows_foldl ⟨registry, .fresh, []⟩ history
  rw [lived, hcalls]
  exact hgrows

/-- Through every history of lookups, with addresses of whatever scheme and in worlds where whatever
fails, and of registrations:

* what a client keeps is what its lookups made and opened: one factory for a scheme and one store
  for a scheme and a root, each made or opened with success once;
* factories are asked for roots and stores, and stores for settings, only as they are kept;
* what is kept is neither removed nor replaced by anything that follows;
* the next lookup makes and opens only what is not kept, and else goes by what is kept, whatever is
  registered for the scheme now: it changes nothing if the address or its scheme is refused, it
  leaves the stores alone if no root is found or no store can be opened, so that one is opened the
  next time, and its answer is that of the kept store for the path below the root;
* the scheme of a lookup is in lower case, in whatever case the address has it. -/
theorem opened_once (registry : StoreRegistry World) (history : List (Step World)) :
    ((lived registry history).client.factories = made (lived registry history).calls ∧
      (lived registry history).client.stores = opened (lived registry history).calls ∧
      ((made (lived registry history).calls).map Prod.fst).Nodup ∧
      ((opened (lived registry history).calls).map Prod.fst).Nodup) ∧
    (∀ call ∈ (lived registry history).calls, call.KeptBy (lived registry history).client) ∧
    (∀ later,
      (lived registry history).client.factories
          <+: (lived registry (history ++ later)).client.factories ∧
        (lived registry history).client.stores
          <+: (lived registry (history ++ later)).client.stores) ∧
    (∀ world uri, ∃ calls,
      (lived registry (history ++ [.lookup world uri])).calls
          = (lived registry history).calls ++ calls ∧
        (∀ call ∈ calls, call.NewTo (lived registry history).client) ∧
        Goes (lived registry history).registry world (lived registry history).client uri calls
          ((lived registry history).client.get (lived registry history).registry world uri)) ∧
    ∀ uri scheme path, target uri = .ok (scheme, path) →
      Text.lowerText scheme.toList = scheme.toList ∧
        ∀ front front' rest, uri = front ++ ":" ++ rest → ':' ∉ front.toList →
          Respelled front.toList front'.toList →
            target (front' ++ ":" ++ rest) = .ok (scheme, path) := by
  have hgrows := grows_lived registry history
  have hfactories : (lived registry history).client.factories
      = made (lived registry history).calls := hgrows.factories_eq
  have hstores : (lived registry history).client.stores
      = opened (lived registry history).calls := hgrows.stores_eq
  refine ⟨⟨hfactories, hstores, ?_, ?_⟩, hgrows.kept, fun later => ?_, fun world uri => ?_, ?_⟩
  · rw [← hfactories]
    exact hgrows.factories_nodup List.nodup_nil
  · rw [← hstores]
    exact hgrows.stores_nodup List.nodup_nil
  · obtain ⟨more, -, hmore⟩ := grows_foldl (lived registry history) later
    rw [← lived_append] at hmore
    exact ⟨⟨_, hmore.factories_eq.symm⟩, ⟨_, hmore.stores_eq.symm⟩⟩
  · refine ⟨_, ?_, (Grows.traced _ world _ uri).new, goes_get _ world _ uri⟩
    rw [lived_append]
    rfl
  · intro uri scheme path htarget
    refine ⟨target_lower htarget, ?_⟩
    intro front front' rest huri hcolon hrespelled
    have hsame := target_respelled hrespelled hcolon rest
    rw [← huri, htarget] at hsame
    cases hother : target (front' ++ ":" ++ rest) with
    | error failure => rw [hother] at hsame; cases hsame
    | ok address => rw [hother] at hsame; cases hsame; rfl

/-- Stores that know their owner, over a world that is a number.  Making a factory fails in the
world 0, looking for a root in the world 1 and opening a store in the world 2. -/
def ownedBy (owner : String) : StoreMaker Nat := fun now =>
  if now = 0 then .error (.outage ⟨.runtime, none⟩)
  else .ok
    { rootOf := fun now path =>
        if now = 1 then .error (.noStore path.text) else .ok ⟨.absolute, ["a"]⟩
      openAt := fun now root =>
        if now = 2 then .error (.rootNotADirectory root.text)
        else .ok ⟨fun _ node => .ok (Settings.ofList [(owner, node.text)])⟩ }

/-- Every lookup fails but the last one, and another maker is registered as soon as the first
factory is made. -/
def stumbling : List (Step Nat) :=
  [.register "Mem" (ownedBy "first"), .lookup 0 "mem:/a/b", .lookup 1 "MEM:/a/b",
    .register "MEM" (ownedBy "second"), .lookup 2 "mem:/a/b", .lookup 3 "Mem:/a/b"]

theorem opened_once_of_stumbling :
    (made (lived (fun _ => none) stumbling).calls).map Prod.fst = ["mem"] ∧
      (opened (lived (fun _ => none) stumbling).calls).map Prod.fst
        = [("mem", ⟨.absolute, ["a"]⟩)] ∧
      ((lived (fun _ => none) stumbling).client.get (lived (fun _ => none) stumbling).registry 4
          "mEm:/a/c").answer = .ok (Settings.ofList [("first", "c")]) := by
  obtain ⟨-, -, -, hnext, -⟩ := opened_once (fun _ => none) stumbling
  obtain ⟨calls, -, -, hgoes⟩ := hnext 4 "mEm:/a/c"
  refine ⟨by rfl, by rfl, ?_⟩
  have hstore := hgoes.answers "mem" ⟨.absolute, ["a", "c"]⟩ _ ⟨.absolute, ["a"]⟩ _ rfl rfl rfl rfl
  exact (hstore.1 ⟨.relative, ["c"]⟩ rfl).2.trans rfl

end ClientLife
end CatalogScout
