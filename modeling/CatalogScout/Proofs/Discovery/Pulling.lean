import CatalogScout.Discovery.Cursor
import CatalogScout.Proofs.Discovery.Visit

/-!
Cursors against the eager run.

What an eager run would still do from where a cursor stands is `Cursor.rest`.  A pull takes the
first dataset off it and leaves the rest of it to do, so any number of pulls stays on the path of
the eager run, and as long as the answers of the surroundings do not change, cursors that are
pulled in turns do not notice each other.
-/

namespace CatalogScout

open Discovery Commands

variable {State Handle : Type}

/-! ## Reports of found tables -/

namespace Discovery

/-- The report of a table that became a dataset. -/
def isFound : Action → Bool
  | .event e => e.name == Event.foundName
  | _ => false

/-- The beginning of a trace that ends with the `k`-th report of a found table. -/
def uptoFound : Nat → List Action → List Action
  | 0, _ => []
  | _ + 1, [] => []
  | k + 1, a :: r => a :: uptoFound (if isFound a then k else k + 1) r

theorem append_uptoFound_zero (before actions : List Action) :
    before ++ uptoFound 0 actions = before := by
  rw [uptoFound, List.append_nil]

/-- No table is reported as found. -/
def Quiet (actions : List Action) : Prop := ∀ a ∈ actions, isFound a = false

theorem quiet_append {a b : List Action} (ha : Quiet a) (hb : Quiet b) : Quiet (a ++ b) :=
  List.forall_mem_append.2 ⟨ha, hb⟩

theorem quiet_nil : Quiet [] := fun _ h => absurd h List.not_mem_nil

theorem quiet_requests (requests : List Request) : Quiet (requests.map .request) := by
  intro a ha
  obtain ⟨r, -, rfl⟩ := List.mem_map.1 ha
  rfl

theorem quiet_logs (records : List LogRecord) : Quiet (records.map .log) := by
  intro a ha
  obtain ⟨r, -, rfl⟩ := List.mem_map.1 ha
  rfl

theorem quiet_takingActions (scene : Scene State Handle) (pool : Pool Connection) :
    Quiet (takingActions scene pool) := by
  unfold takingActions
  split
  · exact quiet_requests _
  · exact quiet_nil

theorem countP_quiet {a : List Action} (h : Quiet a) : a.countP isFound = 0 :=
  List.countP_eq_zero.2 fun x hx => by simp [h x hx]

theorem uptoFound_quiet {a : List Action} (h : Quiet a) (k : Nat) (c : List Action) :
    uptoFound (k + 1) (a ++ c) = a ++ uptoFound (k + 1) c := by
  induction a with
  | nil => rfl
  | cons x a ih =>
    obtain ⟨hx, ha⟩ := List.forall_mem_cons.1 h
    rw [List.cons_append, uptoFound, hx]
    exact congrArg (x :: ·) (ih ha)

/-! ## What a visit and a listing add to the trace -/

/-- The actions that lead to an answer: a report at the very end of them if there is a dataset and
the sink keeps the report, and none otherwise. -/
def Reports (sink : EventSink) (answer : Except Failure (Option (Dataset Handle)))
    (actions : List Action) : Prop :=
  match answer with
  | .ok (some _) =>
    ∃ n before, Quiet before ∧
      (sink (.found n) = .kept ∧ actions = before ++ [.event (.found n)] ∨
        sink (.found n) = .dropped ∧ actions = before)
  | _ => Quiet actions

theorem Reports.quiet_append {sink : EventSink} {answer : Except Failure (Option (Dataset Handle))}
    {a actions : List Action} (ha : Quiet a) (h : Reports sink answer actions) :
    Reports sink answer (a ++ actions) := by
  unfold Reports at h ⊢
  split
  · obtain ⟨n, before, hbefore, hreport⟩ := h
    refine ⟨n, a ++ before, Discovery.quiet_append ha hbefore, ?_⟩
    rcases hreport with ⟨hkept, rfl⟩ | ⟨hdropped, rfl⟩
    · exact .inl ⟨hkept, (List.append_assoc _ _ _).symm⟩
    · exact .inr ⟨hdropped, rfl⟩
  · next hno =>
    split at h
    · exact absurd rfl (hno _)
    · exact Discovery.quiet_append ha h

theorem reports_delivery (scene : Scene State Handle) (n : TableName) (table : Except Failure Table)
    (settings : Settings) :
    Reports scene.sink (deliveryScript scene n table settings).answer
      (deliveryScript scene n table settings).actions := by
  unfold deliveryScript
  split
  · exact quiet_nil
  · split
    · exact quiet_nil
    · split
      · next hkept => exact ⟨n, [], quiet_nil, .inl ⟨hkept, rfl⟩⟩
      · next hdropped => exact ⟨n, [], quiet_nil, .inr ⟨hdropped, rfl⟩⟩
      · exact quiet_nil

theorem reports_making (scene : Scene State Handle) (client : Connection) (n : TableName)
    (settings : Settings) :
    Reports scene.sink (makingScript scene client n settings).answer
      (makingScript scene client n settings).actions := by
  unfold makingScript
  split
  · exact quiet_nil
  · exact quiet_logs [_]
  · exact (reports_delivery scene n _ settings).quiet_append (quiet_requests [_])

theorem reports_reported {scene : Scene State Handle} {s : Script (Option (Dataset Handle))}
    (h : Reports scene.sink s.answer s.actions) (n : TableName) :
    Reports scene.sink (reported scene n s).answer (reported scene n s).actions := by
  unfold reported
  split
  · exact h
  · next failure hanswer =>
    have hquiet : Quiet s.actions := by
      rw [hanswer] at h
      exact h
    split
    · exact h
    · have htold := quiet_append hquiet
        (quiet_logs [.error ("Failed to create HiveDataset for table " ++ n.text)])
      split
      · refine quiet_append htold fun a ha => ?_
        obtain rfl := List.mem_singleton.1 ha
        rfl
      · exact htold
      · exact htold

/-- A visit adds to the trace, and reports a table as found in its last action only. -/
theorem visit_adds (f : Finder) (scene : Scene State Handle) (n : TableName) (w : World State) :
    ∃ answer actions w', f.visit scene n w = result answer w' ∧
      w'.trace = w.trace ++ actions ∧ Reports scene.sink answer actions := by
  cases hclient : clientNow scene w.pool with
  | error failure =>
    let s := reported scene n (⟨.error failure, []⟩ : Script (Option (Dataset Handle)))
    refine ⟨s.answer, takingActions scene w.pool ++ s.actions, _, visit_without hclient f n, ?_, ?_⟩
    · rw [trace_after, trace_lent, List.append_assoc]
    · refine Reports.quiet_append (quiet_takingActions scene w.pool) (reports_reported ?_ n)
      exact quiet_nil
  | ok client =>
    let settings := (f.source.resolve scene.service w.config n).answer
    let records := (f.source.resolve scene.service w.config n).records
    let s := visitScript scene client n settings
    refine ⟨s.answer, (takingActions scene w.pool ++ records.map .log) ++ s.actions, _,
      visit_eq hclient f n, ?_, ?_⟩
    · rw [trace_after, ← List.append_assoc, ← List.append_assoc]
      rfl
    · refine Reports.quiet_append (quiet_append (quiet_takingActions scene w.pool)
        (quiet_logs records)) (reports_reported ?_ n)
      cases settings with
      | error failure => exact quiet_nil
      | ok settings => exact reports_making scene client n settings

/-- A listing adds to the trace and reports no table as found. -/
theorem tables_adds (f : Finder) (scene : Scene State Handle) (w : World State) :
    ∃ answer actions w', f.tables scene w = result answer w' ∧
      w'.trace = w.trace ++ actions ∧ Quiet actions := by
  have htaking := quiet_takingActions scene w.pool
  rcases Finder.listed_or_fault f scene w.pool with
    ⟨client, databases, tablesIn, hlisted⟩ | ⟨asked, cause, hfault⟩
  · let names := f.acceptedPairs databases tablesIn
    let asked := Finder.asking client (databases.filter f.policy.acceptsDatabase)
    let told := [LogRecord.debug ("Found " ++ toString names.length ++ " candidate tables")]
    refine ⟨.ok names, takingActions scene w.pool ++ asked.map .request ++ told.map .log, _,
      Finder.tables_of_listed hlisted, ?_,
      quiet_append (quiet_append htaking (quiet_requests asked)) (quiet_logs told)⟩
    rw [trace_after, Finder.afterListing, trace_giveBack, trace_after, trace_lent,
      List.append_assoc, List.append_assoc, List.append_assoc]
    rfl
  · obtain ⟨w', herror, htrace⟩ := Finder.tables_of_fault hfault
    refine ⟨.error (Finder.listingFailure cause), _, w', herror, ?_,
      quiet_append htaking (quiet_requests asked)⟩
    rw [htrace, List.append_assoc]

end Discovery

/-! ## The course of a cursor -/

namespace Cursor

variable {f : Finder} {scene : Scene State Handle}

/-- A pull from a trace adds to it, and reports a table as found in its last action only. -/
def Adds (sink : EventSink) (trace : List Action) (pulled : Pulled State Handle) : Prop :=
  ∃ actions, pulled.world.trace = trace ++ actions ∧ Reports sink pulled.answer actions

theorem Adds.after_quiet {sink : EventSink} {pulled : Pulled State Handle} {w w' : World State}
    {actions : List Action} (h : Adds sink w'.trace pulled)
    (htrace : w'.trace = w.trace ++ actions) (hquiet : Quiet actions) :
    Adds sink w.trace pulled := by
  obtain ⟨more, hmore, hreports⟩ := h
  refine ⟨actions ++ more, ?_, hreports.quiet_append hquiet⟩
  rw [hmore, htrace, List.append_assoc]

theorem advance_adds (f : Finder) (scene : Scene State Handle) (names : List TableName)
    (w : World State) : Adds scene.sink w.trace (advance f scene names w) := by
  induction names generalizing w with
  | nil => exact ⟨[], (List.append_nil _).symm, quiet_nil⟩
  | cons n rest ih =>
    obtain ⟨answer, actions, w', hvisit, htrace, hreports⟩ := visit_adds f scene n w
    rw [advance, hvisit]
    match answer with
    | .error failure => exact ⟨actions, htrace, hreports⟩
    | .ok (some dataset) => exact ⟨actions, htrace, hreports⟩
    | .ok none => exact (ih w').after_quiet htrace hreports

theorem pull_adds (f : Finder) (scene : Scene State Handle) (c : Cursor) (w : World State) :
    Adds scene.sink w.trace (c.pull f scene w) := by
  cases c with
  | finished => exact ⟨[], (List.append_nil _).symm, quiet_nil⟩
  | pending names => exact advance_adds f scene names w
  | fresh =>
    obtain ⟨answer, actions, w', htables, htrace, hquiet⟩ := tables_adds f scene w
    rw [pull, htables]
    cases answer with
    | error failure => exact ⟨actions, htrace, hquiet⟩
    | ok names => exact (advance_adds f scene names w').after_quiet htrace hquiet

/-- Pulled again and again, a cursor yields datasets one by one and comes to its end. -/
inductive Course (f : Finder) (scene : Scene State Handle) :
    Cursor → World State → List (Dataset Handle) → Except Failure Unit → World State → Prop where
  | ended {c : Cursor} {w w' : World State} {ending : Except Failure Unit}
      (h : c.pull f scene w = ⟨ending.map fun _ => none, .finished, w'⟩) :
      Course f scene c w [] ending w'
  | found {c c' : Cursor} {w w₁ w' : World State} {dataset : Dataset Handle}
      {others : List (Dataset Handle)} {ending : Except Failure Unit}
      (h : c.pull f scene w = ⟨.ok (some dataset), c', w₁⟩)
      (hrest : Course f scene c' w₁ others ending w') :
      Course f scene c w (dataset :: others) ending w'

/-- Only what the first pull comes to counts. -/
theorem Course.of_pull_eq {c c' : Cursor} {w w' w'' : World State} {found : List (Dataset Handle)}
    {ending : Except Failure Unit} (h : Course f scene c' w' found ending w'')
    (hpull : c.pull f scene w = c'.pull f scene w') : Course f scene c w found ending w'' := by
  cases h with
  | ended h => exact .ended (hpull.trans h)
  | found h hrest => exact .found (hpull.trans h) hrest

/-- The course of a cursor over tables is what visiting them all comes to. -/
theorem course_pending (f : Finder) (scene : Scene State Handle) (names : List TableName)
    (w : World State) :
    ∃ found ending w', Course f scene (.pending names) w found ending w' ∧
      f.visitAll scene names w = result (ending.map fun _ => found) w' := by
  induction names generalizing w with
  | nil => exact ⟨[], .ok (), w, .ended rfl, rfl⟩
  | cons n rest ih =>
    have hpull : Cursor.pull f scene (.pending (n :: rest)) w = advance f scene (n :: rest) w := rfl
    rw [advance] at hpull
    cases hvisit : f.visit scene n w with
    | error failure w₁ =>
      refine ⟨[], .error failure, w₁, .ended ?_, bind_of_error hvisit _⟩
      rw [hpull, hvisit]
      rfl
    | ok first w₁ =>
      rw [hvisit] at hpull
      obtain ⟨found, ending, w', hcourse, hall⟩ := ih w₁
      -- The eager run does not stop at a dataset, but goes on to the same end.
      have hboth : f.visitAll scene (n :: rest) w
          = result (ending.map fun _ => first.toList ++ found) w' := by
        rw [Finder.visitAll, bind_of_ok hvisit]
        cases ending with
        | error failure => exact bind_of_error hall _
        | ok => exact bind_of_ok hall _
      cases first with
      | none => exact ⟨found, ending, w', hcourse.of_pull_eq hpull, hboth⟩
      | some dataset => exact ⟨dataset :: found, ending, w', .found hpull hcourse, hboth⟩

/-- The course of a cursor that was never pulled is the eager run. -/
theorem course_fresh (f : Finder) (scene : Scene State Handle) (w : World State) :
    ∃ found ending w', Course f scene .fresh w found ending w' ∧
      f.datasets scene w = result (ending.map fun _ => found) w' := by
  cases htables : f.tables scene w with
  | error failure w₁ =>
    refine ⟨[], .error failure, w₁, .ended ?_, bind_of_error htables _⟩
    rw [pull, htables]
    rfl
  | ok names w₁ =>
    obtain ⟨found, ending, w', hcourse, hall⟩ := course_pending f scene names w₁
    have hpull : Cursor.pull f scene .fresh w = advance f scene names w₁ := by
      rw [pull, htables]
    exact ⟨found, ending, w', hcourse.of_pull_eq hpull, (bind_of_ok htables _).trans hall⟩

/-- Without tables the first pull is the last. -/
theorem Course.of_unlisted {w w₁ w' : World State} {found : List (Dataset Handle)}
    {ending : Except Failure Unit} {failure : Failure} (h : Course f scene .fresh w found ending w')
    (htables : f.tables scene w = .error failure w₁) : found = [] ∧ ending = .error failure := by
  have hpull : Cursor.pull f scene .fresh w = ⟨.error failure, .finished, w₁⟩ := by
    rw [pull, htables]
  cases h with
  | found h _ => cases h.symm.trans hpull
  | @ended _ _ _ ending h =>
    cases ending with
    | ok => cases h.symm.trans hpull
    | error _ =>
      cases h.symm.trans hpull
      exact ⟨rfl, rfl⟩

end Cursor

/-! ## Readers -/

structure Reading (Handle : Type) where
  reader : Nat
  answer : Except Failure (Option (Dataset Handle))
  /-- The events that were submitted during the pull. -/
  events : List Event

/-- Readers that share a world, each with a cursor of its own. -/
structure Readers (State Handle : Type) where
  cursors : Nat → Cursor
  world : World State
  /-- From the first pull to the last. -/
  readings : List (Reading Handle)

namespace Readers

def opened (w : World State) : Readers State Handle := ⟨fun _ => .fresh, w, []⟩

def pull (f : Finder) (scene : Scene State Handle) (r : Readers State Handle) (i : Nat) :
    Readers State Handle :=
  let pulled := (r.cursors i).pull f scene r.world
  { cursors j := if j = i then pulled.cursor else r.cursors j
    world := pulled.world
    readings := r.readings ++ [⟨i, pulled.answer,
      (eventsOf pulled.world.trace).drop (eventsOf r.world.trace).length⟩] }

def run (f : Finder) (scene : Scene State Handle) (schedule : List Nat)
    (r : Readers State Handle) : Readers State Handle :=
  schedule.foldl (pull f scene) r

def of (i : Nat) (r : Readers State Handle) : List (Reading Handle) :=
  r.readings.filter fun reading => reading.reader == i

def answers (i : Nat) (r : Readers State Handle) :
    List (Except Failure (Option (Dataset Handle))) :=
  (r.of i).map (·.answer)

section Pull

variable {f : Finder} {scene : Scene State Handle} {r : Readers State Handle} {i j : Nat}

theorem cursors_pull_self :
    (r.pull f scene i).cursors i = ((r.cursors i).pull f scene r.world).cursor :=
  if_pos rfl

theorem cursors_pull_of_ne (h : i ≠ j) : (r.pull f scene j).cursors i = r.cursors i :=
  if_neg h

theorem of_pull_of_ne (h : i ≠ j) : (r.pull f scene j).of i = r.of i := by
  simp [of, pull, Ne.symm h]

theorem answers_pull_self :
    (r.pull f scene i).answers i
      = r.answers i ++ [((r.cursors i).pull f scene r.world).answer] := by
  simp [answers, of, pull]

/-- Who has come to the end stays there. -/
theorem run_finished (f : Finder) (scene : Scene State Handle) (h : r.cursors i = .finished)
    (m : Nat) :
    (r.run f scene (List.replicate m i)).answers i
        = r.answers i ++ List.replicate m (.ok none) ∧
      (r.run f scene (List.replicate m i)).world = r.world := by
  induction m generalizing r with
  | zero => exact ⟨(List.append_nil _).symm, rfl⟩
  | succ m ih =>
    have hpull : (r.cursors i).pull f scene r.world = ⟨.ok none, .finished, r.world⟩ := by
      rw [h, Cursor.pull]
    have hfinished : (r.pull f scene i).cursors i = .finished := by
      rw [cursors_pull_self, hpull]
    obtain ⟨hanswers, hworld⟩ := ih hfinished
    have hsame : (r.pull f scene i).world = r.world := congrArg Cursor.Pulled.world hpull
    refine ⟨?_, hworld.trans hsame⟩
    show ((r.pull f scene i).run f scene (List.replicate m i)).answers i = _
    rw [hanswers, answers_pull_self, hpull, List.append_assoc]
    rfl

/-- The answers of pulls that yield datasets. -/
def yielding (found : List (Dataset Handle)) : List (Except Failure (Option (Dataset Handle))) :=
  found.map fun dataset => .ok (some dataset)

/-- Until its end a course is read one dataset at a time, and a sink that drops no report of a found
table has received as many. -/
theorem run_course {c : Cursor} {w w' : World State} {found : List (Dataset Handle)}
    {ending : Except Failure Unit} (h : Cursor.Course f scene c w found ending w') :
    ∃ actions, w'.trace = w.trace ++ actions ∧
      ((∀ n, scene.sink (.found n) ≠ .dropped) → actions.countP isFound = found.length) ∧
      ∀ i (r : Readers State Handle), r.cursors i = c → r.world = w → ∀ k ≤ found.length,
        (r.run f scene (List.replicate k i)).answers i
            = r.answers i ++ yielding (found.take k) ∧
          (r.run f scene (List.replicate k i)).world.trace <+: w'.trace ∧
          ((∀ n, scene.sink (.found n) ≠ .dropped) →
            (r.run f scene (List.replicate k i)).world.trace = w.trace ++ uptoFound k actions) := by
  induction h with
  | @ended c w w' ending h =>
    obtain ⟨actions, htrace, hreports⟩ := Cursor.pull_adds f scene c w
    rw [h] at htrace hreports
    have hquiet : Quiet actions := by
      cases ending <;> exact hreports
    refine ⟨actions, htrace, fun _ => countP_quiet hquiet, fun i r _ hw k hk => ?_⟩
    obtain rfl := Nat.le_zero.1 hk
    subst hw
    exact ⟨(List.append_nil _).symm, ⟨actions, htrace.symm⟩,
      fun _ => (append_uptoFound_zero _ _).symm⟩
  | @found c c' w w₁ w' dataset others ending h hrest ih =>
    obtain ⟨first, hfirst, hreports⟩ := Cursor.pull_adds f scene c w
    rw [h] at hfirst hreports
    obtain ⟨n, before, hquiet, hreport⟩ := hreports
    obtain ⟨actions, htrace, hcount, hlater⟩ := ih
    -- A report that is not dropped ends the first pull: were it refused, there would be no dataset.
    have hone : (∀ n, scene.sink (.found n) ≠ .dropped) →
        first = before ++ [.event (.found n)] := by
      intro hreceives
      rcases hreport with ⟨-, hfirst⟩ | ⟨hdropped, -⟩
      · exact hfirst
      · exact absurd hdropped (hreceives n)
    refine ⟨first ++ actions, ?_, fun hreceives => ?_, fun i r hc hw k hk => ?_⟩
    · rw [htrace, hfirst, List.append_assoc]
    · rw [List.countP_append, hcount hreceives, hone hreceives, List.countP_append,
        countP_quiet hquiet, Nat.zero_add, List.length_cons, Nat.add_comm]
      rfl
    · cases k with
      | zero =>
        subst hw
        refine ⟨(List.append_nil _).symm, ⟨first ++ actions, ?_⟩,
          fun _ => (append_uptoFound_zero _ _).symm⟩
        rw [htrace, hfirst, List.append_assoc]
        rfl
      | succ k =>
        subst hc hw
        have hcursor : (r.pull f scene i).cursors i = c' := by
          rw [cursors_pull_self, h]
        have hworld : (r.pull f scene i).world = w₁ := congrArg Cursor.Pulled.world h
        obtain ⟨hanswers, hpart, hkept⟩ := hlater i _ hcursor hworld k (Nat.le_of_succ_le_succ hk)
        refine ⟨?_, hpart, fun hreceives => ?_⟩
        · show ((r.pull f scene i).run f scene (List.replicate k i)).answers i = _
          rw [hanswers, answers_pull_self, h, List.append_assoc]
          rfl
        · show ((r.pull f scene i).run f scene (List.replicate k i)).world.trace = _
          have hupto : uptoFound (k + 1) (first ++ actions) = first ++ uptoFound k actions := by
            rw [hone hreceives, List.append_assoc, uptoFound_quiet hquiet, List.append_assoc]
            rfl
          rw [hkept hreceives, hupto, hfirst, List.append_assoc]

/-- Read to its end a course comes to its ending, and the end is found again by every later
pull. -/
theorem run_course_over {c : Cursor} {w w' : World State} {found : List (Dataset Handle)}
    {ending : Except Failure Unit} (h : Cursor.Course f scene c w found ending w')
    (hc : r.cursors i = c) (hw : r.world = w) (m : Nat) :
    (r.run f scene (List.replicate (found.length + 1 + m) i)).answers i
        = r.answers i ++ (yielding found
          ++ (ending.map fun _ => none) :: List.replicate m (.ok none)) ∧
      (r.run f scene (List.replicate (found.length + 1 + m) i)).world = w' := by
  induction h generalizing r with
  | @ended c w w' ending h =>
    subst hc hw
    have hfinished : (r.pull f scene i).cursors i = .finished := by
      rw [cursors_pull_self, h]
    have hworld : (r.pull f scene i).world = w' := congrArg Cursor.Pulled.world h
    obtain ⟨hanswers, hsame⟩ := run_finished f scene hfinished m
    rw [List.length_nil, Nat.zero_add, Nat.add_comm, List.replicate_succ]
    refine ⟨?_, hsame.trans hworld⟩
    show ((r.pull f scene i).run f scene (List.replicate m i)).answers i = _
    rw [hanswers, answers_pull_self, h, List.append_assoc]
    rfl
  | @found c c' w w₁ w' dataset others ending h hrest ih =>
    subst hc hw
    have hcursor : (r.pull f scene i).cursors i = c' := by
      rw [cursors_pull_self, h]
    have hworld : (r.pull f scene i).world = w₁ := congrArg Cursor.Pulled.world h
    obtain ⟨hanswers, hsame⟩ := ih hcursor hworld
    have hcount : (dataset :: others).length + 1 + m = others.length + 1 + m + 1 := by
      rw [List.length_cons]
      omega
    rw [hcount, List.replicate_succ]
    refine ⟨?_, hsame⟩
    show ((r.pull f scene i).run f scene (List.replicate (others.length + 1 + m) i)).answers i = _
    rw [hanswers, answers_pull_self, h, List.append_assoc]
    rfl

end Pull

/-! ## A reader by itself -/

/-- A reader that pulls by itself follows the eager run, which finds datasets, comes to an ending
and does what is to be done. -/
structure Follows (f : Finder) (scene : Scene State Handle) (w : World State)
    (found : List (Dataset Handle)) (ending : Except Failure Unit) (w' : World State)
    (actions : List Action) (i : Nat) : Prop where
  datasets_eq : f.datasets scene w = result (ending.map fun _ => found) w'
  trace_eq : w'.trace = w.trace ++ actions
  /-- If no report of a found table is dropped, there is one for each dataset. -/
  reports : (∀ n, scene.sink (.found n) ≠ .dropped) → actions.countP isFound = found.length
  /-- The first pulls get the first datasets. -/
  answers : ∀ k ≤ found.length,
    ((opened w).run f scene (List.replicate k i)).answers i = yielding (found.take k)
  /-- Whatever has been done by then the run does, too. -/
  done : ∀ k ≤ found.length,
    ((opened w).run f scene (List.replicate k i)).world.trace <+: w'.trace
  /-- Nothing is done before the first pull, and nothing beyond the report of the latest
  dataset. -/
  done_upto : ∀ k ≤ found.length, (k = 0 ∨ ∀ n, scene.sink (.found n) ≠ .dropped) →
    ((opened w).run f scene (List.replicate k i)).world.trace = w.trace ++ uptoFound k actions
  /-- The next pull comes to the ending, and all later ones find the end. -/
  answers_over : ∀ m,
    ((opened w).run f scene (List.replicate (found.length + 1 + m) i)).answers i
      = yielding found ++ (ending.map fun _ => none) :: List.replicate m (.ok none)
  /-- Then all is done, and no more. -/
  done_over : ∀ m,
    ((opened w).run f scene (List.replicate (found.length + 1 + m) i)).world = w'
  /-- If tables cannot be listed, the first pull says so. -/
  unlisted : ∀ failure w₁, f.tables scene w = .error failure w₁ →
    found = [] ∧ ending = .error failure ∧
      (failure.stopsRun = false → failure.kindName = "DatasetDiscoveryError")

theorem follows_datasets (f : Finder) (scene : Scene State Handle) (w : World State) :
    ∃ found ending w' actions, ∀ i, Follows f scene w found ending w' actions i := by
  obtain ⟨found, ending, w', hcourse, hall⟩ := Cursor.course_fresh f scene w
  obtain ⟨actions, htrace, hcount, hreading⟩ := run_course hcourse
  refine ⟨found, ending, w', actions, fun i => ?_⟩
  have hpart := hreading i (opened w) rfl rfl
  have hover := fun m => run_course_over (i := i) (r := opened w) hcourse rfl rfl m
  refine ⟨hall, htrace, hcount, fun k hk => (hpart k hk).1, fun k hk => (hpart k hk).2.1,
    fun k hk hdone => ?_, fun m => (hover m).1, fun m => (hover m).2, fun failure w₁ htables => ?_⟩
  · rcases hdone with rfl | hreceives
    · exact (append_uptoFound_zero _ _).symm
    · exact (hpart k hk).2.2 hreceives
  obtain ⟨hfound, hending⟩ := hcourse.of_unlisted htables
  refine ⟨hfound, hending, fun hstops => ?_⟩
  obtain ⟨asked, cause, hfault⟩ := Finder.fault_of_tables_error htables
  obtain ⟨w₂, herror, -⟩ := Finder.tables_of_fault hfault
  obtain rfl := (EStateM.Result.error.inj (htables.symm.trans herror)).1
  unfold Finder.listingFailure at hstops ⊢
  split
  · next hcause =>
    rw [if_pos hcause, hcause] at hstops
    cases hstops
  · rfl

end Readers

end CatalogScout
