import CatalogScout.Proofs.Discovery.Ledger
import CatalogScout.Proofs.Discovery.Pulling

/-!
Readers that pull in turns.

They share a pool and a lookup service, so one could notice the other.  It does not, if what is
asked gives the same answers at all times: the pool lends the same client whenever it is asked, and
the lookup service answers by a function.  Both are kept by every pull, and in such a world what a
pull comes to depends on the reader's own cursor alone.
-/

namespace CatalogScout

open Discovery Commands

variable {State Handle α : Type}

namespace Discovery

/-! ## Answers that do not change -/

/-- What is offered and what is looked up is the same now and later. -/
structure Still (scene : Scene State Handle) (lookup : String → Except Failure Settings)
    (offer : Except Failure Connection) (w : World State) : Prop where
  offers : clientNow scene w.pool = offer
  answers : AnswersBy scene.service lookup w.config

/-- All attempts to make a client end alike. -/
def Constant (connect : Nat → Connecting) : Prop :=
  ∀ m n, (connect m).client = (connect n).client

/-- A run comes to one answer and submits the same events, whenever it takes place. -/
def Uniform (scene : Scene State Handle) (lookup : String → Except Failure Settings)
    (offer : Except Failure Connection) (x : Run State α) : Prop :=
  ∃ (answer : Except Failure α) (events : List Event), ∀ w, Still scene lookup offer w →
    ∃ w', x w = result answer w' ∧ eventsOf w'.trace = eventsOf w.trace ++ events ∧
      Still scene lookup offer w'

section Uniform

variable {scene : Scene State Handle} {lookup : String → Except Failure Settings}
  {offer : Except Failure Connection} {w : World State}

/-- A client that came back is lent again. -/
theorem clientNow_giveBack (client : Connection) (pool : Pool Connection) :
    clientNow scene (pool.giveBack client) = .ok client :=
  rfl

/-- Who could not get a client cannot get one later. -/
theorem clientNow_lent {failure : Failure} (hconnect : Constant scene.connect)
    (h : clientNow scene w.pool = .error failure) :
    clientNow scene (lent scene w).pool = .error failure := by
  unfold clientNow at h ⊢
  cases hidle : w.pool.idle with
  | cons client others =>
    rw [Pool.take_of_idle _ hidle] at h
    cases h
  | nil =>
    by_cases hroom : w.pool.inUse < w.pool.size
    · have hasked := hconnect (w.pool.asked + 1) w.pool.asked
      cases hclient : (scene.connect w.pool.asked).client with
      | ok client => simp [Pool.take, hidle, hroom, hclient] at h
      | error refusal =>
        rw [hclient] at hasked
        simp only [Pool.take, hidle, hroom, hclient, if_true] at h
        simp only [lent, Pool.take, hidle, hroom, hclient, hasked, if_true]
        exact h
    · have hfull :=
        Pool.take_of_full (fun n => (scene.connect n).client) hidle (Nat.le_of_not_lt hroom)
      have hsame : (lent scene w).pool = w.pool := by
        rw [lent, hfull]
      rw [hsame]
      exact h

theorem uniform_visit (lookup : String → Except Failure Settings)
    (offer : Except Failure Connection) (hconnect : Constant scene.connect) (f : Finder)
    (n : TableName) :
    Uniform scene lookup offer (f.visit scene n) := by
  cases offer with
  | error failure =>
    let s := reported scene n (⟨.error failure, []⟩ : Script (Option (Dataset Handle)))
    refine ⟨s.answer, eventsOf s.actions, fun w hw =>
      ⟨_, visit_without hw.offers f n, ?_, clientNow_lent hconnect hw.offers, hw.answers⟩⟩
    rw [trace_after, eventsOf_append, trace_lent, eventsOf_append, eventsOf_takingActions,
      List.append_nil]
  | ok client =>
    let s := visitScript scene client n (settingsBy lookup f.source n)
    refine ⟨s.answer, eventsOf s.actions, fun w hw =>
      ⟨(lookedUp scene f.source client n w).after s.actions, ?_, ?_, clientNow_giveBack _ _,
        hw.answers.resolve f.source n⟩⟩
    · rw [visit_eq hw.offers, hw.answers.answer_resolve]
      rfl
    · rw [trace_after, eventsOf_append, eventsOf_lookedUp]

theorem of_listDatabases (f : Finder) (catalog : String) (c : Catalog) (databases : List String) :
    Script.Of (f.listDatabases catalog c databases : Run State (List TableName)) := by
  induction databases with
  | nil => exact Script.of_pure []
  | cons db rest ih =>
    rw [Finder.listDatabases]
    split
    · exact Script.of_bind (Script.of_request _ _) fun _ =>
        Script.of_bind ih fun _ => Script.of_pure _
    · exact ih

theorem of_listAll (f : Finder) (scene : Scene State Handle) (client : Connection) :
    Script.Of (f.listAll scene client) :=
  Script.of_bind (Script.of_request _ _) fun databases =>
    of_listDatabases f client.catalog (scene.catalog client) databases

theorem uniform_tables (lookup : String → Except Failure Settings)
    (offer : Except Failure Connection) (hconnect : Constant scene.connect) (f : Finder) :
    Uniform scene lookup offer (f.tables scene) := by
  cases offer with
  | error failure =>
    refine ⟨.error (Finder.listingFailure failure), [], fun w hw =>
      ⟨lent scene w, ?_, ?_, clientNow_lent hconnect hw.offers, hw.answers⟩⟩
    · simp only [Finder.tables, withClient_without hw.offers]
      rfl
    · rw [trace_lent, eventsOf_append, eventsOf_takingActions]
  | ok client =>
    obtain ⟨s, hs⟩ := of_listAll f scene client
    have hplayed : ∀ w : World State, clientNow scene w.pool = .ok client →
        withClient scene (f.listAll scene) w = s.play ((lent scene w).giveBack client) :=
      fun w hw => withClient_played hw (hs _)
    have htrace : ∀ w : World State,
        eventsOf (((lent scene w).giveBack client).after s.actions).trace
          = eventsOf w.trace ++ eventsOf s.actions := by
      intro w
      rw [trace_after, eventsOf_append, trace_giveBack, trace_lent, eventsOf_append,
        eventsOf_takingActions, List.append_nil]
    cases hanswer : s.answer with
    | error failure =>
      refine ⟨.error (Finder.listingFailure failure), eventsOf s.actions, fun w hw =>
        ⟨_, ?_, htrace w, clientNow_giveBack _ _, hw.answers⟩⟩
      simp only [Finder.tables, hplayed w hw.offers, Script.play, hanswer]
      rfl
    | ok names =>
      refine ⟨.ok names, eventsOf s.actions, fun w hw =>
        ⟨(((lent scene w).giveBack client).after s.actions).after
          [.log (.debug ("Found " ++ toString names.length ++ " candidate tables"))], ?_, ?_,
          clientNow_giveBack _ _, hw.answers⟩⟩
      · simp only [Finder.tables, hplayed w hw.offers, Script.play, hanswer]
        rfl
      · rw [trace_after, eventsOf_append, htrace]
        exact List.append_nil _

end Uniform
end Discovery

/-! ## Readers -/

section Company

variable {f : Finder} {scene : Scene State Handle} {lookup : String → Except Failure Settings}
  {offer : Except Failure Connection}

namespace Cursor

/-- A pull comes to one answer and one cursor and submits the same events, whenever it is made. -/
def UniformPull (scene : Scene State Handle) (lookup : String → Except Failure Settings)
    (offer : Except Failure Connection) (pull : World State → Pulled State Handle) : Prop :=
  ∃ answer c' events, ∀ w, Still scene lookup offer w → ∃ w', pull w = ⟨answer, c', w'⟩ ∧
    eventsOf w'.trace = eventsOf w.trace ++ events ∧ Still scene lookup offer w'

theorem uniform_stop (answer : Except Failure (Option (Dataset Handle))) (c' : Cursor) :
    UniformPull scene lookup offer fun w => ⟨answer, c', w⟩ :=
  ⟨answer, c', [], fun w hw => ⟨w, rfl, (List.append_nil _).symm, hw⟩⟩

/-- A pull that begins with a run and ends there if that fails. -/
theorem uniform_goOn {x : Run State α} {rest : α → World State → Pulled State Handle}
    {pull : World State → Pulled State Handle} (hx : Uniform scene lookup offer x)
    (hrest : ∀ a, UniformPull scene lookup offer (rest a))
    (hpull : ∀ w, pull w = match x w with
      | .error failure w' => ⟨.error failure, .finished, w'⟩
      | .ok a w' => rest a w') : UniformPull scene lookup offer pull := by
  obtain ⟨first, events, hfirst⟩ := hx
  cases first with
  | error failure =>
    refine ⟨.error failure, .finished, events, fun w hw => ?_⟩
    obtain ⟨w₁, h, hlater⟩ := hfirst w hw
    exact ⟨w₁, by rw [hpull, h]; rfl, hlater⟩
  | ok a =>
    obtain ⟨answer, c', more, hlater⟩ := hrest a
    refine ⟨answer, c', events ++ more, fun w hw => ?_⟩
    obtain ⟨w₁, h, hevents, hw₁⟩ := hfirst w hw
    obtain ⟨w₂, hlast, hmore, hw₂⟩ := hlater w₁ hw₁
    refine ⟨w₂, ?_, ?_, hw₂⟩
    · rw [hpull, h]
      exact hlast
    · rw [hmore, hevents, List.append_assoc]

theorem uniform_advance (hconnect : Constant scene.connect) (f : Finder)
    (names : List TableName) : UniformPull scene lookup offer (advance f scene names) := by
  induction names with
  | nil => exact uniform_stop (.ok none) .finished
  | cons n rest ih =>
    let goOn (found : Option (Dataset Handle)) : World State → Pulled State Handle :=
      found.elim (advance f scene rest) fun dataset w => ⟨.ok (some dataset), .pending rest, w⟩
    have hgoOn : ∀ found, UniformPull scene lookup offer (goOn found) := by
      intro found
      cases found with
      | some dataset => exact uniform_stop (.ok (some dataset)) (.pending rest)
      | none => exact ih
    refine uniform_goOn (uniform_visit lookup offer hconnect f n) hgoOn fun w => ?_
    rw [advance]
    cases f.visit scene n w with
    | error failure w' => rfl
    | ok found w' => cases found <;> rfl

/-- What a pull comes to depends on the cursor alone. -/
theorem uniform_pull (hconnect : Constant scene.connect) (f : Finder) (c : Cursor) :
    UniformPull scene lookup offer (c.pull f scene) := by
  cases c with
  | finished => exact uniform_stop (.ok none) .finished
  | pending names => exact uniform_advance hconnect f names
  | fresh =>
    refine uniform_goOn (uniform_tables lookup offer hconnect f) (uniform_advance hconnect f)
      fun w => ?_
    rw [pull]
    cases f.tables scene w <;> rfl

end Cursor

namespace Readers

/-- One and the same pull, in whatever company it is made. -/
theorem pull_uniform (lookup : String → Except Failure Settings)
    (offer : Except Failure Connection) (hconnect : Constant scene.connect) (f : Finder)
    (c : Cursor) (i : Nat) :
    ∃ reading c', ∀ r : Readers State Handle, r.cursors i = c → Still scene lookup offer r.world →
      (r.pull f scene i).of i = r.of i ++ [reading] ∧ (r.pull f scene i).cursors i = c' ∧
        Still scene lookup offer (r.pull f scene i).world := by
  obtain ⟨answer, c', events, hpull⟩ : Cursor.UniformPull scene lookup offer (c.pull f scene) :=
    Cursor.uniform_pull hconnect f c
  refine ⟨⟨i, answer, events⟩, c', fun r hc hw => ?_⟩
  obtain ⟨w', h, hevents, hw'⟩ := hpull r.world hw
  subst hc
  refine ⟨?_, ?_, ?_⟩
  · simp [of, pull, h, hevents]
  · rw [cursors_pull_self, h]
  · have hworld : (r.pull f scene i).world = w' := congrArg Cursor.Pulled.world h
    rw [hworld]
    exact hw'

/-- The pulls of others do not count.  The induction carries that the cursor is the same in
company and alone, and that the world is still. -/
theorem of_run (hconnect : Constant scene.connect) {i : Nat} (schedule : List Nat)
    {r r' : Readers State Handle} (hw : Still scene lookup offer r.world)
    (hw' : Still scene lookup offer r'.world) (hcursor : r.cursors i = r'.cursors i)
    (hof : r.of i = r'.of i) :
    (r.run f scene schedule).of i
      = (r'.run f scene (List.replicate (schedule.count i) i)).of i := by
  induction schedule generalizing r r' with
  | nil => exact hof
  | cons j rest ih =>
    obtain ⟨reading, c', hpull⟩ := pull_uniform lookup offer hconnect f (r.cursors j) j
    obtain ⟨hof₁, hcursor₁, hw₁⟩ := hpull r rfl hw
    by_cases hj : j = i
    · -- The reader itself pulls, so it does the same by itself.
      subst hj
      obtain ⟨hof₁', hcursor₁', hw₁'⟩ := hpull r' hcursor.symm hw'
      rw [List.count_cons_self, List.replicate_succ]
      exact ih hw₁ hw₁' (hcursor₁.trans hcursor₁'.symm) (by rw [hof₁, hof₁', hof])
    · -- Somebody else pulls, which leaves the reader's cursor and readings alone.
      rw [List.count_cons_of_ne hj]
      have hi : i ≠ j := fun h => hj h.symm
      exact ih hw₁ hw' ((cursors_pull_of_ne hi).trans hcursor) ((of_pull_of_ne hi).trans hof)

/-- Reading lazily is the eager run, cut into pulls.  By itself every reader follows the eager run,
dataset by dataset, to the same ending.  And readers that pull in turns, in whatever order, do not
notice each other, if clients and lookups answer the same at all times: each has the answers and
the events of the reader that makes as many pulls by itself. -/
theorem pulls_refine_datasets (f : Finder) {w : World State} (hconnect : Constant scene.connect)
    (hanswers : AnswersBy scene.service lookup w.config) :
    (∃ found ending w' actions, ∀ i, Follows f scene w found ending w' actions i) ∧
      ∀ schedule i, ((opened w).run f scene schedule).of i
        = ((opened w).run f scene (List.replicate (schedule.count i) i)).of i := by
  refine ⟨follows_datasets f scene w, fun schedule i => ?_⟩
  have hstill : Still scene lookup (clientNow scene w.pool) w := ⟨rfl, hanswers⟩
  exact of_run hconnect schedule hstill hstill rfl rfl

/-! ## Two readers of a catalog with a table that fails -/

/-- Between two tables that become datasets and behind them stands one that cannot be described. -/
def stumblingScene : Scene Unit Unit :=
  { sampleScene with
    catalog _ := { sampleCatalog with tables _ := .ok ["first", "bad", "last", "bad"] } }

/-- What is made of a table that nothing is known of. -/
def plainDataset (table : String) : Dataset Unit :=
  ⟨(), ⟨⟨"db", table⟩, none, none, none, none, ∅, []⟩, ∅, ∅⟩

theorem pulls_refine_datasets_of_two :
    (∃ w' actions,
      sampleFinder.datasets stumblingScene sampleWorld
          = .ok [plainDataset "first", plainDataset "last"] w' ∧
        ((opened sampleWorld).run sampleFinder stumblingScene [0]).world.trace
          = uptoFound 1 actions ∧
        w'.trace = actions) ∧
      ((opened sampleWorld).run sampleFinder stumblingScene [0, 1, 1, 0, 1, 0]).of 1
        = ((opened sampleWorld).run sampleFinder stumblingScene [1, 1, 1]).of 1 ∧
      ((opened sampleWorld).run sampleFinder stumblingScene [1, 1, 1]).of 1
        = [⟨1, .ok (some (plainDataset "first")), [.found ⟨"db", "first"⟩]⟩,
          ⟨1, .ok (some (plainDataset "last")),
            [.failed ⟨"db", "bad"⟩ (.outage ⟨.timeout, none⟩), .found ⟨"db", "last"⟩]⟩,
          ⟨1, .ok none, [.failed ⟨"db", "bad"⟩ (.outage ⟨.timeout, none⟩)]⟩] := by
  have hconnect : Constant stumblingScene.connect := fun _ _ => rfl
  have hanswers : AnswersBy stumblingScene.service sampleLookup sampleWorld.config :=
    fun _ _ => rfl
  obtain ⟨⟨found, ending, w', actions, hfollows⟩, hcompany⟩ :=
    pulls_refine_datasets sampleFinder (w := sampleWorld) hconnect hanswers
  obtain ⟨w₁, heager⟩ : ∃ w₁, sampleFinder.datasets stumblingScene sampleWorld
      = .ok [plainDataset "first", plainDataset "last"] w₁ := ⟨_, rfl⟩
  have hsame := result_inj ((hfollows 0).datasets_eq.symm.trans heager :
    result _ w' = result (.ok [plainDataset "first", plainDataset "last"]) w₁)
  cases ending with
  | error failure => cases hsame.1
  | ok =>
    obtain rfl := Except.ok.inj hsame.1
    have hone := (hfollows 0).done_upto 1 (by decide) (Or.inr fun _ => nofun)
    exact ⟨⟨w', actions, (hfollows 0).datasets_eq, hone, (hfollows 0).trace_eq⟩,
      hcompany [0, 1, 1, 0, 1, 0] 1, rfl⟩

end Readers
end Company
end CatalogScout
