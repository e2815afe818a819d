import CatalogScout.LogRecord
import CatalogScout.TreeStore

/-!
Looking up settings by address.  The scheme of an address selects a factory, the factory finds
and opens the store that holds the address's path, and the store answers for the node.

A client keeps the factories it has made and the stores it has opened for as long as it lives;
it makes a factory once for a scheme and opens a store once for a scheme and a root.  What
stores and factories look at is a world that may change between two lookups.  A lookup tells the
calls that it made, and its outcome.
-/

namespace CatalogScout

/-- An opened store answers for paths below its root. -/
structure Store (World : Type) where
  settings : World → Path → Except Failure Settings

structure StoreFactory (World : Type) where
  /-- The root of the store that holds a path. -/
  rootOf : World → Path → Except Failure Path
  openAt : World → Path → Except Failure (Store World)

/-- Makes a factory. -/
abbrev StoreMaker (World : Type) := World → Except Failure (StoreFactory World)

/-- What is registered for each scheme. -/
abbrev StoreRegistry (World : Type) := String → Option (StoreMaker World)

namespace TreeStore

/-- The factory for stores in a file tree. -/
def factory : StoreFactory FileTree where
  rootOf := rootOf
  openAt t root :=
    match checkRoot t root with
    | .ok () => .ok ⟨fun t node => settings t root node⟩
    | .error failure => .error failure

end TreeStore

namespace StoreRegistry

variable {World : Type}

/-- Only file trees. -/
def standard : StoreRegistry FileTree := fun scheme =>
  if scheme = "file" then some fun _ => .ok TreeStore.factory else none

/-- Schemes are registered in lower case. -/
def register (r : StoreRegistry World) (scheme : String) (maker : StoreMaker World) :
    StoreRegistry World := fun s =>
  if s = String.ofList (Text.lowerText scheme.toList) then some maker else r s

end StoreRegistry

structure ConfigClient (World : Type) where
  /-- By scheme, in the order in which they were made. -/
  factories : List (String × StoreFactory World)
  /-- By scheme and root, in the order in which they were opened. -/
  stores : List ((String × Path) × Store World)

namespace ConfigClient

variable {World : Type}

/-- What a lookup asks of a maker, a factory or a store, and the answer. -/
inductive StoreCall (World : Type) where
  | make (scheme : String) (answer : Except Failure (StoreFactory World))
  | find (scheme : String) (factory : StoreFactory World) (path : Path)
      (answer : Except Failure Path)
  | opening (scheme : String) (factory : StoreFactory World) (root : Path)
      (answer : Except Failure (Store World))
  | read (scheme : String) (root : Path) (store : Store World) (node : Path)
      (answer : Except Failure Settings)

/-- What comes of one lookup. -/
structure Outcome (World : Type) where
  answer : Except Failure Settings
  /-- The store that the lookup set out to open. -/
  opening : Option (String × Path)
  client : ConfigClient World

def fresh : ConfigClient World := ⟨[], []⟩

/-- The scheme and the path of an address. -/
def target (uri : String) : Except Failure (String × Path) :=
  match Uri.parse uri.toList with
  | .error fault => .error (.badUri fault)
  | .ok parsed =>
    if parsed.scheme.isEmpty || parsed.path.isEmpty then .error (.malformedUri uri)
    else .ok (String.ofList parsed.scheme, Path.ofText parsed.path)

def factory? (c : ConfigClient World) (scheme : String) : Option (StoreFactory World) :=
  c.factories.lookup scheme

def store? (c : ConfigClient World) (scheme : String) (root : Path) : Option (Store World) :=
  c.stores.lookup (scheme, root)

/-! ## Lookups with their calls -/

/-- The factory of a scheme, made now unless the client has one. -/
def factoryFor (registry : StoreRegistry World) (world : World) (c : ConfigClient World)
    (scheme : String) :
    List (StoreCall World) × Except Failure (StoreFactory World × ConfigClient World) :=
  match c.factory? scheme with
  | some factory => ([], .ok (factory, c))
  | none =>
    match registry scheme with
    | none => ([], .error (.unknownScheme scheme))
    | some maker =>
      match maker world with
      | .error failure => ([.make scheme (.error failure)], .error failure)
      | .ok factory =>
        ([.make scheme (.ok factory)],
          .ok (factory, { c with factories := c.factories ++ [(scheme, factory)] }))

/-- What a store answers for a path, which must lie at its root or below. -/
def settingsIn (world : World) (scheme : String) (store : Store World) (root path : Path) :
    List (StoreCall World) × Except Failure Settings :=
  match path.below? root with
  | none => ([], .error (.outsideStore path.text root.bareText))
  | some node =>
    ([.read scheme root store node (store.settings world node)], store.settings world node)

/-- Ask the store at a root, opened now unless the client has it open. -/
def getIn (world : World) (c : ConfigClient World) (factory : StoreFactory World)
    (scheme : String) (root path : Path) : List (StoreCall World) × Outcome World :=
  match c.store? scheme root with
  | some store =>
    let reading := settingsIn world scheme store root path
    (reading.1, ⟨reading.2, none, c⟩)
  | none =>
    match factory.openAt world root with
    | .error failure =>
      ([.opening scheme factory root (.error failure)],
        ⟨.error failure, some (scheme, root), c⟩)
    | .ok store =>
      let reading := settingsIn world scheme store root path
      (.opening scheme factory root (.ok store) :: reading.1,
        ⟨reading.2, some (scheme, root),
          { c with stores := c.stores ++ [((scheme, root), store)] }⟩)

/-- Look up the node at an address, and tell the calls that this took, in order. -/
def traced (registry : StoreRegistry World) (world : World) (c : ConfigClient World)
    (uri : String) : List (StoreCall World) × Outcome World :=
  match target uri with
  | .error failure => ([], ⟨.error failure, none, c⟩)
  | .ok (scheme, path) =>
    match c.factoryFor registry world scheme with
    | (calls, .error failure) => (calls, ⟨.error failure, none, c⟩)
    | (calls, .ok (factory, c)) =>
      match factory.rootOf world path with
      | .error failure =>
        (calls ++ [.find scheme factory path (.error failure)], ⟨.error failure, none, c⟩)
      | .ok root =>
        let asking := getIn world c factory scheme root path
        (calls ++ .find scheme factory path (.ok root) :: asking.1, asking.2)

/-- The settings of the node at an address. -/
def get (registry : StoreRegistry World) (world : World) (c : ConfigClient World)
    (uri : String) : Outcome World :=
  (c.traced registry world uri).2

/-- What the log says of a lookup. -/
def Outcome.records (o : Outcome World) : List LogRecord :=
  match o.opening with
  | none => []
  | some (scheme, root) =>
    [.debug ("Opening " ++ scheme ++ " config store at " ++ root.text)]

end ConfigClient
end CatalogScout
