import CatalogScout.Proofs.Discovery.Listing

/-!
A single visit, in whatever scene and world.

Between the taking of a client and its return, all that a visit reads of the world is the client
and what the lookup service answers.  The rest of it is a script: an answer, and actions that are
added to the trace.  The script of a visit is written out here case by case, for sinks that refuse
events and datasets that cannot be built, too, and the world after a visit is the one after the
lookup with the actions of the script.
-/

namespace CatalogScout
namespace Discovery

open Commands

variable {State Handle α β : Type}

/-! ## Looking up settings -/

/-- The settings of a table, if addresses are answered by a function. -/
def settingsBy (lookup : String → Except Failure Settings) (source : ConfigSource)
    (n : TableName) : Except Failure Settings :=
  match source.base with
  | .job settings => .ok (source.narrow settings)
  | .store root => (lookup (ConfigSource.nodeUri root n)).map source.narrow

/-- The world after the settings of a table have been looked up. -/
def resolved (scene : Scene State Handle) (source : ConfigSource) (n : TableName)
    (w : World State) : World State :=
  let reply := source.resolve scene.service w.config n
  { w.after (reply.records.map .log) with config := reply.state }

theorem resolve_ok {scene : Scene State Handle} {source : ConfigSource} {n : TableName}
    {w : World State} {settings : Settings}
    (h : (source.resolve scene.service w.config n).answer = .ok settings) :
    resolve scene source n w = .ok settings (resolved scene source n w) := by
  simp only [resolve, h, resolved]

theorem resolve_error {scene : Scene State Handle} {source : ConfigSource} {n : TableName}
    {w : World State} {failure : Failure}
    (h : (source.resolve scene.service w.config n).answer = .error failure) :
    resolve scene source n w = .error failure (resolved scene source n w) := by
  simp only [resolve, h, resolved]

theorem eventsOf_resolved (scene : Scene State Handle) (source : ConfigSource) (n : TableName)
    (w : World State) : eventsOf (resolved scene source n w).trace = eventsOf w.trace := by
  rw [resolved, trace_after, eventsOf_append, eventsOf_logs, List.append_nil]

theorem requestsOf_resolved (scene : Scene State Handle) (source : ConfigSource) (n : TableName)
    (w : World State) : requestsOf (resolved scene source n w).trace = requestsOf w.trace := by
  rw [resolved, trace_after, requestsOf_append, requestsOf_logs, List.append_nil]

/-! ## Scripts -/

/-- A run ends in a world with an answer. -/
def result (answer : Except Failure α) (w : World State) :
    EStateM.Result Failure (World State) α :=
  match answer with
  | .ok a => .ok a w
  | .error failure => .error failure w

theorem result_inj {a b : Except Failure α} {v w : World State} (h : result a v = result b w) :
    a = b ∧ v = w := by
  cases a with
  | ok a =>
    cases b with
    | ok b =>
      obtain ⟨rfl, rfl⟩ := EStateM.Result.ok.inj h
      exact ⟨rfl, rfl⟩
    | error f => cases h
  | error e =>
    cases b with
    | ok b => cases h
    | error f =>
      obtain ⟨rfl, rfl⟩ := EStateM.Result.error.inj h
      exact ⟨rfl, rfl⟩

theorem exists_result (x : Run State α) (w : World State) :
    ∃ answer w', x w = result answer w' := by
  cases h : x w with
  | ok a w' => exact ⟨.ok a, w', rfl⟩
  | error failure w' => exact ⟨.error failure, w', rfl⟩

structure Script (α : Type) where
  answer : Except Failure α
  actions : List Action

namespace Script

def play (s : Script α) : Run State α := fun w => result s.answer (w.after s.actions)

theorem play_ok {s : Script α} {a : α} (h : s.answer = .ok a) (w : World State) :
    s.play w = .ok a (w.after s.actions) := by
  rw [play, h]
  rfl

theorem play_error {s : Script α} {failure : Failure} (h : s.answer = .error failure)
    (w : World State) : s.play w = .error failure (w.after s.actions) := by
  rw [play, h]
  rfl

/-- The run is the playing of a script. -/
def Of (x : Run State α) : Prop := ∃ s : Script α, ∀ w, x w = s.play w

theorem of_pure (a : α) : Of (pure a : Run State α) :=
  ⟨⟨.ok a, []⟩, fun w => by rw [play, after_nil]; rfl⟩

theorem of_request (r : Request) (answer : Except Failure α) :
    Of (request r answer : Run State α) := by
  refine ⟨⟨answer, [.request r]⟩, fun w => ?_⟩
  cases answer with
  | ok a => exact request_ok rfl r w
  | error failure => exact request_error rfl r w

theorem of_bind {x : Run State α} {rest : α → Run State β} (hx : Of x) (hrest : ∀ a, Of (rest a)) :
    Of (x >>= rest) := by
  obtain ⟨s, hs⟩ := hx
  cases ha : s.answer with
  | error failure =>
    refine ⟨⟨.error failure, s.actions⟩, fun w => ?_⟩
    exact bind_of_error ((hs w).trans (play_error ha w)) rest
  | ok a =>
    obtain ⟨s', hs'⟩ := hrest a
    refine ⟨⟨s'.answer, s.actions ++ s'.actions⟩, fun w => ?_⟩
    rw [bind_of_ok ((hs w).trans (play_ok ha w)), hs', play, play, after_after]

end Script

/-- A body that plays a script with a client gives the client back after it. -/
theorem withClient_played {scene : Scene State Handle} {w w' : World State} {client : Connection}
    {body : Connection → Run State α} {s : Script α} (h : clientNow scene w.pool = .ok client)
    (hbody : body client (lent scene w) = s.play w') :
    withClient scene body w = s.play (w'.giveBack client) := by
  cases ha : s.answer with
  | ok a =>
    rw [withClient_ok h (hbody.trans (Script.play_ok ha w')), Script.play_ok ha]
    rfl
  | error failure =>
    rw [withClient_error h (hbody.trans (Script.play_error ha w')), Script.play_error ha]
    rfl

/-! ## The script of a visit -/

/-- What becomes of a described table. -/
def deliveryScript (scene : Scene State Handle) (n : TableName) :
    Except Failure Table → Settings → Script (Option (Dataset Handle))
  | .error failure, _ => ⟨.error failure, []⟩
  | .ok table, settings =>
    match scene.build table settings with
    | .error failure => ⟨.error failure, []⟩
    | .ok dataset =>
      match scene.sink (.found n) with
      | .kept => ⟨.ok (some dataset), [.event (.found n)]⟩
      | .dropped => ⟨.ok (some dataset), []⟩
      | .refused failure => ⟨.error failure, []⟩

/-- What becomes of a table whose settings are known. -/
def makingScript (scene : Scene State Handle) (client : Connection) (n : TableName)
    (settings : Settings) : Script (Option (Dataset Handle)) :=
  match settings.boolean Finder.optOutKey false with
  | .error failure => ⟨.error failure, []⟩
  | .ok true => ⟨.ok none, [.log (.debug ("Skipping blacklisted dataset " ++ n.text))]⟩
  | .ok false =>
    let delivery := deliveryScript scene n ((scene.catalog client).table n) settings
    ⟨delivery.answer,
      .request (.table (Workspace.fullName client.catalog n)) :: delivery.actions⟩

/-- What becomes of an attempt, which is reported if it failed. -/
def reported (scene : Scene State Handle) (n : TableName)
    (s : Script (Option (Dataset Handle))) : Script (Option (Dataset Handle)) :=
  match s.answer with
  | .ok _ => s
  | .error failure =>
    if failure.stopsRun then s
    else
      let told := s.actions ++ [.log (.error ("Failed to create HiveDataset for table " ++ n.text))]
      match scene.sink (.failed n failure) with
      | .kept => ⟨.ok none, told ++ [.event (.failed n failure)]⟩
      | .dropped => ⟨.ok none, told⟩
      | .refused failure' => ⟨.error failure', told⟩

/-- What becomes of a visited table, from the answer of its own settings. -/
def visitScript (scene : Scene State Handle) (client : Connection) (n : TableName)
    (settings : Except Failure Settings) : Script (Option (Dataset Handle)) :=
  reported scene n
    (match settings with
      | .error failure => ⟨.error failure, []⟩
      | .ok settings => makingScript scene client n settings)

theorem boolean_goes_on {s : Settings} {key : String} {default : Bool} {failure : Failure}
    (h : s.boolean key default = .error failure) : failure.stopsRun = false := by
  unfold Settings.boolean at h
  split at h
  · cases h
  · split at h
    · cases h
    · cases h
      rfl

/-- A failure that nobody refuses to hear of goes no further. -/
theorem reported_of_received {scene : Scene State Handle} {n : TableName} {failure : Failure}
    {actions : List Action} (hgoesOn : failure.stopsRun = false)
    (hreceived : ∀ refusal, scene.sink (.failed n failure) ≠ .refused refusal) :
    reported scene n ⟨.error failure, actions⟩
      = ⟨.ok none, actions ++ .log (.error ("Failed to create HiveDataset for table " ++ n.text))
          :: ([Event.failed n failure].filter (keeps scene.sink)).map .event⟩ := by
  simp only [reported, hgoesOn]
  cases hsink : scene.sink (.failed n failure) with
  | kept => simp [keeps, hsink]
  | dropped => simp [keeps, hsink]
  | refused refusal => exact absurd hsink (hreceived refusal)

theorem deliveryScript_of_received {scene : Scene State Handle} {n : TableName} {table : Table}
    {settings : Settings} {dataset : Dataset Handle}
    (hbuilt : scene.build table settings = .ok dataset)
    (hreceived : ∀ refusal, scene.sink (.found n) ≠ .refused refusal) :
    deliveryScript scene n (.ok table) settings
      = ⟨.ok (some dataset), ([Event.found n].filter (keeps scene.sink)).map .event⟩ := by
  simp only [deliveryScript, hbuilt]
  cases hsink : scene.sink (.found n) with
  | kept => simp [keeps, hsink]
  | dropped => simp [keeps, hsink]
  | refused refusal => exact absurd hsink (hreceived refusal)

/-! ## Visits play their scripts -/

/-- Making the dataset of a table whose settings are known. -/
def makeWith (scene : Scene State Handle) (client : Connection) (n : TableName)
    (settings : Settings) : Run State (Option (Dataset Handle)) := do
  let optedOut ← accept (settings.boolean Finder.optOutKey false)
  if optedOut then
    log (.debug ("Skipping blacklisted dataset " ++ n.text))
    return none
  let table ← request (.table (Workspace.fullName client.catalog n))
    ((scene.catalog client).table n)
  let dataset ← accept (scene.build table settings)
  submit scene.sink (.found n)
  return some dataset

theorem create_eq (f : Finder) (scene : Scene State Handle) (n : TableName) :
    f.create scene n = withClient scene fun client =>
      resolve scene f.source n >>= makeWith scene client n :=
  rfl

theorem submit_eq (sink : EventSink) (e : Event) :
    (submit sink e : Run State Unit)
      = match sink e with
        | .kept => perform (.event e)
        | .dropped => pure ()
        | .refused failure => throw failure :=
  rfl

section Visit

variable {f : Finder} {scene : Scene State Handle} {client : Connection} {w w' : World State}
  {n : TableName}

theorem makeWith_eq_play (scene : Scene State Handle) (client : Connection) (n : TableName)
    (settings : Settings) (w : World State) :
    makeWith scene client n settings w = (makingScript scene client n settings).play w := by
  unfold makeWith makingScript
  cases hb : settings.boolean Finder.optOutKey false with
  | error failure => simp only [Script.play, after_nil]; rfl
  | ok optedOut =>
    cases optedOut with
    | true => rfl
    | false =>
      show (request _ _ >>= fun table => _) w = _
      cases ht : (scene.catalog client).table n with
      | error failure =>
        rw [bind_of_error (request_error rfl _ w)]
        rfl
      | ok table =>
        rw [bind_of_ok (request_ok rfl _ w)]
        simp only [deliveryScript]
        cases hbuild : scene.build table settings with
        | error failure => rfl
        | ok dataset =>
          show (submit scene.sink (.found n) >>= fun _ => _) _ = _
          rw [submit_eq]
          cases hsink : scene.sink (.found n) with
          | kept =>
            simp only [Script.play]
            show EStateM.Result.ok _ ((w.after _).after _) = _
            rw [after_after]
            rfl
          | dropped => rfl
          | refused failure => rfl

/-- A failure is reported in the world that the attempt left. -/
theorem visit_of_create {s : Script (Option (Dataset Handle))}
    (h : f.create scene n w = s.play w') : f.visit scene n w = (reported scene n s).play w' := by
  unfold Finder.visit reported
  cases ha : s.answer with
  | ok found =>
    simp only [h.trans (Script.play_ok ha w'), Script.play_ok ha]
  | error failure =>
    simp only [h.trans (Script.play_error ha w')]
    cases hstops : failure.stopsRun with
    | true =>
      rw [if_pos rfl, if_pos rfl, Script.play_error ha]
    | false =>
      simp only [Bool.false_eq_true, if_false]
      show (submit scene.sink (.failed n failure) >>= fun _ => _) ((w'.after _).after _) = _
      rw [submit_eq, after_after]
      cases hsink : scene.sink (.failed n failure) with
      | kept =>
        simp only [Script.play]
        show EStateM.Result.ok _ ((w'.after _).after _) = _
        rw [after_after]
        rfl
      | dropped => rfl
      | refused failure' => rfl

/-- The world once the settings of a table have been looked up and the client is back. -/
def lookedUp (scene : Scene State Handle) (source : ConfigSource) (client : Connection)
    (n : TableName) (w : World State) : World State :=
  (resolved scene source n (lent scene w)).giveBack client

theorem visit_eq (h : clientNow scene w.pool = .ok client) (f : Finder) (n : TableName) :
    f.visit scene n w
      = (visitScript scene client n (f.source.resolve scene.service w.config n).answer).play
          (lookedUp scene f.source client n w) := by
  refine visit_of_create ?_
  rw [create_eq]
  refine withClient_played h ?_
  cases hanswer : (f.source.resolve scene.service w.config n).answer with
  | error failure =>
    have hlent : (f.source.resolve scene.service (lent scene w).config n).answer
        = .error failure := hanswer
    rw [bind_of_error (resolve_error hlent)]
    simp only [Script.play, after_nil]
    rfl
  | ok settings =>
    have hlent : (f.source.resolve scene.service (lent scene w).config n).answer
        = .ok settings := hanswer
    rw [bind_of_ok (resolve_ok hlent), makeWith_eq_play]

/-- Without a client the failure to get one is reported. -/
theorem visit_without {failure : Failure} (h : clientNow scene w.pool = .error failure)
    (f : Finder) (n : TableName) :
    f.visit scene n w = (reported scene n ⟨.error failure, []⟩).play (lent scene w) := by
  refine visit_of_create ?_
  rw [create_eq, withClient_without h]
  simp only [Script.play, after_nil]
  rfl

end Visit

/-! ## The world after a lookup -/

section LookedUp

variable {scene : Scene State Handle} {source : ConfigSource} {client : Connection}
  {n : TableName} {w : World State}

@[simp]
theorem eventsOf_lookedUp (scene : Scene State Handle) (source : ConfigSource)
    (client : Connection) (n : TableName) (w : World State) :
    eventsOf (lookedUp scene source client n w).trace = eventsOf w.trace := by
  rw [lookedUp, trace_giveBack, eventsOf_resolved, trace_lent, eventsOf_append,
    eventsOf_takingActions, List.append_nil]

/-- An idle client is idle again. -/
theorem lookedUp_of_idle {others : List Connection} (h : w.pool.idle = client :: others) :
    lookedUp scene source client n w = resolved scene source n w := by
  have hpool : (resolved scene source n (lent scene w)).pool.giveBack client = w.pool := by
    have hlent : (resolved scene source n (lent scene w)).pool = (lent scene w).pool := rfl
    rw [hlent, lent_of_idle h]
    exact giveBack_of_idle h
  rw [lookedUp, World.giveBack, hpool, lent_of_idle h]
  rfl

end LookedUp

/-! ## Services that do not change their answers -/

/-- Whatever the service is asked before, it answers by the function. -/
def AnswersBy (service : ConfigService State) (lookup : String → Except Failure Settings)
    (state : State) : Prop :=
  ∀ (asked : List String) (uri : String),
    (service (asked.foldl (fun s u => (service s u).state) state) uri).answer = lookup uri

namespace AnswersBy

variable {service : ConfigService State} {lookup : String → Except Failure Settings}
  {state : State}

theorem next (h : AnswersBy service lookup state) (uri : String) :
    AnswersBy service lookup (service state uri).state := fun asked => h (uri :: asked)

theorem answer_resolve (h : AnswersBy service lookup state) (source : ConfigSource)
    (n : TableName) : (source.resolve service state n).answer = settingsBy lookup source n := by
  unfold ConfigSource.resolve settingsBy
  cases source.base with
  | job settings => rfl
  | store root => exact congrArg (Except.map source.narrow) (h [] _)

theorem resolve (h : AnswersBy service lookup state) (source : ConfigSource) (n : TableName) :
    AnswersBy service lookup (source.resolve service state n).state := by
  unfold ConfigSource.resolve
  cases source.base with
  | job settings => exact h
  | store root => exact h.next _

end AnswersBy

end Discovery
end CatalogScout
