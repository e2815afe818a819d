import CatalogScout.ConfigClient
import CatalogScout.Job
import CatalogScout.TableName

/-!
Where the settings of a table come from: the settings of the job or, if the job names a store,
the table's own node in it; and of these, what lies within the job's scopes.
-/

namespace CatalogScout

/-- What a service answers for an address.  It may keep a state of its own. -/
structure ConfigReply (State : Type) where
  answer : Except Failure Settings
  records : List LogRecord
  state : State

/-- Answers addresses with settings. -/
abbrev ConfigService (State : Type) := State → String → ConfigReply State

namespace ConfigClient

/-- A client over a file tree, as a service. -/
def service (registry : StoreRegistry FileTree) :
    ConfigService (FileTree × ConfigClient FileTree) := fun (tree, client) uri =>
  let o := client.get registry tree uri
  ⟨o.answer, o.records, (tree, o.client)⟩

end ConfigClient

namespace ConfigSource

inductive Base where
  /-- The same settings for every table. -/
  | job (settings : Settings)
  /-- A node for each table below an address without slashes at its end. -/
  | store (root : String)

end ConfigSource

structure ConfigSource where
  base : ConfigSource.Base
  /-- Applied from the first to the last. -/
  scopes : List String

namespace ConfigSource

def ofSettings (s : Settings) : ConfigSource := ⟨.job s, []⟩

def ofStore (uri : String) : ConfigSource :=
  ⟨.store (String.ofList (Text.dropTrailing '/' uri.toList)), []⟩

/-- Narrow a source to a scope.  A blank scope or none changes nothing. -/
def withScope (source : ConfigSource) : Option String → ConfigSource
  | none => source
  | some scope =>
    if Text.isBlankString scope then source
    else { source with scopes := source.scopes ++ [scope] }

def ofJob (s : Settings) : ConfigSource :=
  let source :=
    match Job.nonEmpty? s Job.storeUriKey with
    | some uri => ofStore uri
    | none => ofSettings s
  source.withScope (s.get? Job.configScopeKey)

/-- What the scopes leave of the base's settings. -/
def narrow (source : ConfigSource) (s : Settings) : Settings :=
  source.scopes.foldl Settings.within s

/-- The address of a table below the root of a store. -/
def nodeUri (root : String) (n : TableName) : String := root ++ n.nodeText

/-- The settings of a table. -/
def resolve {State : Type} (service : ConfigService State) (source : ConfigSource)
    (state : State) (n : TableName) : ConfigReply State :=
  match source.base with
  | .job s => ⟨.ok (source.narrow s), [], state⟩
  | .store root =>
    let reply := service state (nodeUri root n)
    { reply with answer := reply.answer.map source.narrow }

end ConfigSource
end CatalogScout
