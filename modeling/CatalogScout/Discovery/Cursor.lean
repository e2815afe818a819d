import CatalogScout.Discovery.Finder

/-!
Making datasets one at a time.

A cursor does nothing before it is first pulled; then the tables are listed, and each pull goes
on to the next table that becomes a dataset.  A cursor that came to its end, by running out of
tables or by a failure, stays there.
-/

namespace CatalogScout

inductive Cursor where
  | fresh
  /-- The tables that have not been visited. -/
  | pending (names : List TableName)
  | finished
deriving DecidableEq, Repr

namespace Cursor

open Discovery

variable {State Handle : Type}

/-- What a pull comes to: a dataset, the end, or a failure. -/
structure Pulled (State Handle : Type) where
  answer : Except Failure (Option (Dataset Handle))
  cursor : Cursor
  world : World State

/-- Visit tables until one becomes a dataset. -/
def advance (f : Finder) (scene : Scene State Handle) :
    List TableName → World State → Pulled State Handle
  | [], w => ⟨.ok none, .finished, w⟩
  | n :: rest, w =>
    match f.visit scene n w with
    | .error failure w => ⟨.error failure, .finished, w⟩
    | .ok (some dataset) w => ⟨.ok (some dataset), .pending rest, w⟩
    | .ok none w => advance f scene rest w

def pull (f : Finder) (scene : Scene State Handle) (c : Cursor) (w : World State) :
    Pulled State Handle :=
  match c with
  | .finished => ⟨.ok none, .finished, w⟩
  | .pending names => advance f scene names w
  | .fresh =>
    match f.tables scene w with
    | .error failure w => ⟨.error failure, .finished, w⟩
    | .ok names w => advance f scene names w

/-- A closed cursor yields nothing more. -/
def close (_ : Cursor) : Cursor := .finished

end Cursor
end CatalogScout
