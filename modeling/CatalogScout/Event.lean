import CatalogScout.Failure
import CatalogScout.Settings.Basic
import CatalogScout.TableName

/-!
Events that discovery reports: one for each table that became a dataset, and one for each table
that failed to.
-/

namespace CatalogScout

structure Event where
  name : String
  metadata : Settings

/-- What a sink does with an event. -/
inductive Receipt where
  | kept
  | dropped
  | refused (failure : Failure)

abbrev EventSink := Event → Receipt

namespace Event

def foundName : String := "DatasetFound"

def failedName : String := "DatasetError"

def urnKey : String := "datasetUrn"

def contextKey : String := "FailureContext"

def found (n : TableName) : Event := ⟨foundName, Settings.ofList [(urnKey, n.text)]⟩

def failed (n : TableName) (failure : Failure) : Event :=
  ⟨failedName, Settings.ofList [(urnKey, n.text), (contextKey, failure.described)]⟩

/-- The events of one name, in their order. -/
def named (name : String) (events : List Event) : List Event :=
  events.filter fun e => e.name == name

end Event

/-- Keeps every event. -/
def EventSink.keeping : EventSink := fun _ => .kept

/-- Drops every event. -/
def EventSink.dropping : EventSink := fun _ => .dropped

end CatalogScout
