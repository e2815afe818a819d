import CatalogScout.Commands.Report
import CatalogScout.Discovery.Supply

/-!
Running a command line.
-/

namespace CatalogScout
namespace Commands

open Discovery Markup Text

/-- What a run finds around it. -/
structure Surroundings where
  /-- Where files of settings are looked for. -/
  files : FileTree
  /-- Where stores are looked for. -/
  stores : FileTree
  login : Login
  workspace : Workspace

/-- What a run does. -/
structure Session where
  printed : List Printed
  /-- How verbose the log was set up, each time that it was. -/
  verbosity : List Bool
  requests : List Request
  ending : Ending

/-- The state of the lookup service: the stores and a client over them. -/
abbrev ConfigState := FileTree × ConfigClient FileTree

/-- A job that is ready to run. -/
structure Context where
  finder : Finder
  supply : Supply

def Context.ofOptions [CharacterNames] (login : Login) (options : JobOptions) :
    Except Failure Context := do
  let job ← Settings.ofJob options.file options.assignments options.profile
  let finder ← Finder.ofJob job
  let supply ← Supply.ofJob login job
  return ⟨finder, supply⟩

def Context.scene (c : Context) (s : Surroundings) : Scene ConfigState Unit where
  catalog client := s.workspace.catalog client.catalog
  connect := c.supply.connect
  service := ConfigClient.service StoreRegistry.standard
  build table settings := .ok ⟨(), table, c.finder.job, settings⟩
  sink := EventSink.keeping

def Context.world (c : Context) (s : Surroundings) : World ConfigState :=
  ⟨c.supply.pool, (s.stores, ConfigClient.fresh), []⟩

def requestsOf (trace : List Action) : List Request :=
  trace.filterMap fun
    | .request r => some r
    | _ => none

def eventsOf (trace : List Action) : List Event :=
  trace.filterMap fun
    | .event e => some e
    | _ => none

/-- The answer of a run and what was done for it. -/
def ran {α : Type} (act : Run ConfigState α) (w : World ConfigState) :
    Except Failure α × List Action :=
  match act w with
  | .ok a w => (.ok a, w.trace)
  | .error failure w => (.error failure, w.trace)

/-- Run a command, and say what it printed and asked for. -/
def Context.run [Escaping] (c : Context) (s : Surroundings) (command : Command) :
    Report × List Request :=
  let scene := c.scene s
  let world := c.world s
  match command with
  | .tables =>
    let (found, trace) := ran (c.finder.tables scene) world
    (Report.tables found, requestsOf trace)
  | .datasets =>
    let (found, trace) := ran (c.finder.datasets scene) world
    (Report.datasets found (eventsOf trace), requestsOf trace)
  | .config text =>
    match TableName.parse text with
    | .error failure => (Report.failed (escaped failure.message) 2, [])
    | .ok n =>
      let (found, trace) := ran (resolve scene c.finder.source n) world
      (Report.config n found, requestsOf trace)

variable [CharacterNames] [Escaping]

/-- Set up the job, then read the command's own arguments and run it. -/
def runCommand (s : Surroundings) (options : JobOptions) (name : CommandName)
    (arguments : List String) : Session :=
  match Context.ofOptions s.login options with
  | .error failure =>
    let report := Report.ofJobFailure failure
    ⟨report.printed, [options.verbose], [], report.ending⟩
  | .ok context =>
    match readCommand name arguments with
    | .error ending => ⟨[], [options.verbose], [], ending⟩
    | .ok command =>
      let (report, requests) := context.run s command
      ⟨report.printed, [options.verbose], requests, report.ending⟩

/-- Run a command line. -/
def run (s : Surroundings) (arguments : List String) : Session :=
  match read s.files arguments with
  | .ended ending => ⟨[], [], [], ending⟩
  | .groupHelp verbose => ⟨[], [verbose], [], .help⟩
  | .command options name arguments => runCommand s options name arguments

end Commands
end CatalogScout
