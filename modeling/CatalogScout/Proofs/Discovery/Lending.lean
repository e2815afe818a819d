import CatalogScout.Proofs.Discovery.Interleaving
import CatalogScout.Proofs.Pool.Conservation

/-!
How discovery uses the pool.

What a run does with the pool is told by its moves: a client is taken, or a client is given back.
A run that comes to the same whatever the pool is makes no move, and every other run is put
together from takings, returns and such runs.  Discovery moves in turns: it takes a client, and
before it takes the next one it gives the client back, whatever fails in between.  So a call leaves
as many clients in use as it found, it has one of its own at most at any time, and with room for
one it is never refused.
-/

namespace CatalogScout

open Discovery

variable {State Handle α β : Type}

namespace Discovery

/-! ## Runs that leave the pool alone -/

/-- Whatever the pool is, the run comes to the same and leaves the pool as it is. -/
def Bystander (x : Run State α) : Prop :=
  ∀ w : World State, ∃ (answer : Except Failure α) (w' : World State),
    ∀ pool : Pool Connection, x { w with pool } = result answer { w' with pool }

theorem bystander_result (answer : Except Failure α) :
    Bystander (result answer : Run State α) :=
  fun w => ⟨answer, w, fun _ => rfl⟩

theorem bystander_perform (action : Action) : Bystander (perform action : Run State Unit) :=
  fun w => ⟨.ok (), w.after [action], fun _ => rfl⟩

theorem bystander_submit (sink : EventSink) (e : Event) :
    Bystander (submit sink e : Run State Unit) := by
  rw [submit_eq]
  cases sink e with
  | kept => exact bystander_perform _
  | dropped => exact bystander_result (.ok ())
  | refused failure => exact bystander_result (.error failure)

theorem Bystander.of_script {x : Run State α} (h : Script.Of x) : Bystander x := by
  obtain ⟨s, hs⟩ := h
  intro w
  exact ⟨s.answer, w.after s.actions, fun pool => hs { w with pool }⟩

theorem bystander_resolve (scene : Scene State Handle) (source : ConfigSource) (n : TableName) :
    Bystander (resolve scene source n) := by
  intro w
  refine ⟨(source.resolve scene.service w.config n).answer, resolved scene source n w,
    fun pool => ?_⟩
  cases h : (source.resolve scene.service w.config n).answer with
  | ok settings => exact resolve_ok (w := { w with pool }) h
  | error failure => exact resolve_error (w := { w with pool }) h

/-! ## Going on -/

/-- Go on with what a run comes to, be it an answer or a failure. -/
def goOn (x : Run State α) (next : Except Failure α → Run State β) : Run State β := fun w =>
  match x w with
  | .ok a w' => next (.ok a) w'
  | .error failure w' => next (.error failure) w'

theorem goOn_eq {x : Run State α} {w w' : World State} {answer : Except Failure α}
    (h : x w = result answer w') (next : Except Failure α → Run State β) :
    goOn x next w = next answer w' := by
  cases answer with
  | ok a =>
    have hok : x w = .ok a w' := h
    simp only [goOn, hok]
  | error failure =>
    have herror : x w = .error failure w' := h
    simp only [goOn, herror]

theorem Bystander.goOn {x : Run State α} {next : Except Failure α → Run State β}
    (hx : Bystander x) (hnext : ∀ answer, Bystander (next answer)) :
    Bystander (goOn x next) := by
  intro w
  obtain ⟨answer, w₁, h⟩ := hx w
  obtain ⟨last, w₂, hlast⟩ := hnext answer w₁
  refine ⟨last, w₂, fun pool => ?_⟩
  rw [goOn_eq (h pool)]
  exact hlast pool

/-- What comes next if all goes well; a failure is passed on. -/
def ifOk (next : α → Run State β) : Except Failure α → Run State β
  | .ok a => next a
  | .error failure => result (.error failure)

theorem ifOk_ok (next : α → Run State β) (a : α) : ifOk next (.ok a) = next a :=
  rfl

theorem bind_eq_goOn (x : Run State α) (next : α → Run State β) :
    (x >>= next) = goOn x (ifOk next) := by
  funext w
  obtain ⟨answer, w', h⟩ := exists_result x w
  rw [goOn_eq h]
  cases answer with
  | ok a => exact bind_of_ok h next
  | error failure => exact bind_of_error h next

theorem Bystander.bind {x : Run State α} {next : α → Run State β} (hx : Bystander x)
    (hnext : ∀ a, Bystander (next a)) : Bystander (x >>= next) := by
  rw [bind_eq_goOn]
  apply hx.goOn
  intro answer
  cases answer with
  | ok a => exact hnext a
  | error failure => exact bystander_result (.error failure)

/-! ## Moves -/

/-- Something that is done with the pool. -/
inductive Move where
  | take
  | giveBack (client : Connection)

/-- How clients are made, if what is asked for them is left out. -/
def clientsOf (connect : Nat → Connecting) (n : Nat) : Except Failure Connection :=
  (connect n).client

def Move.after (connect : Nat → Connecting) (pool : Pool Connection) : Move → Pool Connection
  | .take => (pool.take (clientsOf connect)).2
  | .giveBack client => pool.giveBack client

/-- The pool after moves, the first one first. -/
def poolAfter (connect : Nat → Connecting) (pool : Pool Connection) (moves : List Move) :
    Pool Connection :=
  moves.foldl (Move.after connect) pool

theorem poolAfter_append (connect : Nat → Connecting) (pool : Pool Connection)
    (a b : List Move) :
    poolAfter connect pool (a ++ b) = poolAfter connect (poolAfter connect pool a) b :=
  List.foldl_append

def handBack (client : Connection) : Run State Unit := fun w => .ok () (w.giveBack client)

/-- A run from a world makes moves, in this order.  Nothing else reaches the pool: a run is a
bystander, or takes a client, or gives one back, or goes on with one such run after another. -/
inductive Moves (connect : Nat → Connecting) :
    {α : Type} → Run State α → World State → List Move → Prop where
  | none {α : Type} {x : Run State α} {w : World State} (h : Bystander x) : Moves connect x w []
  | take {Handle : Type} {scene : Scene State Handle} {w : World State}
      (h : scene.connect = connect) : Moves connect (takeClient scene) w [.take]
  | giveBack {client : Connection} {w : World State} :
      Moves connect (handBack client) w [.giveBack client]
  | goOn {α β : Type} {x : Run State α} {next : Except Failure α → Run State β}
      {w w' : World State} {answer : Except Failure α} {first later : List Move}
      (hx : Moves connect x w first) (h : x w = result answer w')
      (hnext : Moves connect (next answer) w' later) :
      Moves connect (goOn x next) w (first ++ later)

/-- The moves are all that happens to the pool. -/
theorem Moves.pool_eq {connect : Nat → Connecting} {x : Run State α} {w w' : World State}
    {moves : List Move} {answer : Except Failure α} (hmoves : Moves connect x w moves)
    (h : x w = result answer w') : w'.pool = poolAfter connect w.pool moves := by
  induction hmoves generalizing w' with
  | @none α x w hx =>
    obtain ⟨answer₁, w₁, hsame⟩ := hx w
    obtain ⟨-, rfl⟩ := result_inj (h.symm.trans (hsame w.pool))
    rfl
  | @take Handle scene w hconnect =>
    subst hconnect
    cases hclient : clientNow scene w.pool with
    | ok client =>
      have htaken : takeClient scene w = result (.ok client) (lent scene w) := takeClient_ok hclient
      obtain ⟨-, rfl⟩ := result_inj (htaken.symm.trans h)
      rfl
    | error failure =>
      have hrefused : takeClient scene w = result (.error failure) (lent scene w) :=
        takeClient_error hclient
      obtain ⟨-, rfl⟩ := result_inj (hrefused.symm.trans h)
      rfl
  | @giveBack client w =>
    have hback : handBack client w = result (.ok ()) (w.giveBack client) := rfl
    obtain ⟨-, rfl⟩ := result_inj (hback.symm.trans h)
    rfl
  | @goOn α β x next w w₁ answer₁ first later hx hfirst hnext ihx ihnext =>
    rw [goOn_eq hfirst] at h
    rw [poolAfter_append, ← ihx hfirst]
    exact ihnext h

/-! ## Turns -/

/-- A client that was taken is given back before the next one is taken. -/
inductive InTurns (connect : Nat → Connecting) : Pool Connection → List Move → Prop where
  | done {pool : Pool Connection} : InTurns connect pool []
  | refused {pool : Pool Connection} {failure : Failure} {later : List Move}
      (h : (pool.take (clientsOf connect)).1 = .error failure)
      (hlater : InTurns connect (pool.take (clientsOf connect)).2 later) :
      InTurns connect pool (.take :: later)
  | lent {pool : Pool Connection} {client : Connection} {later : List Move}
      (h : (pool.take (clientsOf connect)).1 = .ok client)
      (hlater : InTurns connect ((pool.take (clientsOf connect)).2.giveBack client) later) :
      InTurns connect pool (.take :: .giveBack client :: later)

theorem InTurns.append {connect : Nat → Connecting} {pool : Pool Connection} {a b : List Move}
    (ha : InTurns connect pool a) (hb : InTurns connect (poolAfter connect pool a) b) :
    InTurns connect pool (a ++ b) := by
  induction ha with
  | done => exact hb
  | refused h _ ih => exact .refused h (ih hb)
  | lent h _ ih => exact .lent h (ih hb)

/-- What holds of a pool between turns, whatever the turn comes to. -/
structure KeptByTurns (connect : Nat → Connecting) (atRest : Pool Connection → Prop) : Prop where
  refused : ∀ (pool : Pool Connection) (failure : Failure), atRest pool →
    (pool.take (clientsOf connect)).1 = .error failure →
      atRest (pool.take (clientsOf connect)).2
  lent : ∀ (pool : Pool Connection) (client : Connection), atRest pool →
    (pool.take (clientsOf connect)).1 = .ok client →
      atRest ((pool.take (clientsOf connect)).2.giveBack client)

/-- The pool is at rest, or one client is out of a pool that was. -/
def AtRestOrOut (connect : Nat → Connecting) (atRest : Pool Connection → Prop)
    (pool : Pool Connection) : Prop :=
  atRest pool ∨ ∃ before client, atRest before ∧
    (before.take (clientsOf connect)).1 = .ok client ∧
    pool = (before.take (clientsOf connect)).2

/-- All along moves in turns the pool is at rest or one client is out of it, it is at rest whenever
a client is taken, and it is at rest in the end. -/
theorem InTurns.invariant {connect : Nat → Connecting} {atRest : Pool Connection → Prop}
    (hkept : KeptByTurns connect atRest) {pool : Pool Connection} {moves : List Move}
    (hturns : InTurns connect pool moves) (hrest : atRest pool) :
    atRest (poolAfter connect pool moves) ∧
      (∀ before, before <+: moves → AtRestOrOut connect atRest (poolAfter connect pool before)) ∧
      ∀ before, before ++ [.take] <+: moves → atRest (poolAfter connect pool before) := by
  induction hturns with
  | done =>
    refine ⟨hrest, ?_, ?_⟩
    · intro before hbefore
      obtain rfl := List.prefix_nil.1 hbefore
      exact Or.inl hrest
    · intro before hbefore
      have hempty := List.prefix_nil.1 hbefore
      simp at hempty
  | @refused pool failure later h hlater ih =>
    obtain ⟨hend, halong, hasking⟩ := ih (hkept.refused pool failure hrest h)
    refine ⟨hend, ?_, ?_⟩
    · intro before hbefore
      rcases List.prefix_cons_iff.1 hbefore with rfl | ⟨rest, rfl, hsome⟩
      · exact Or.inl hrest
      · exact halong rest hsome
    · intro before hbefore
      cases before with
      | nil => exact hrest
      | cons m rest =>
        obtain ⟨rfl, hsome⟩ := List.cons_prefix_cons.1 hbefore
        exact hasking rest hsome
  | @lent pool client later h hlater ih =>
    obtain ⟨hend, halong, hasking⟩ := ih (hkept.lent pool client hrest h)
    refine ⟨hend, ?_, ?_⟩
    · intro before hbefore
      rcases List.prefix_cons_iff.1 hbefore with rfl | ⟨one, rfl, hone⟩
      · exact Or.inl hrest
      · rcases List.prefix_cons_iff.1 hone with rfl | ⟨rest, rfl, hsome⟩
        · exact Or.inr ⟨pool, client, hrest, h, rfl⟩
        · exact halong rest hsome
    · intro before hbefore
      match before with
      | [] => exact hrest
      | [m] =>
        -- A client is out, and the next move gives it back.
        have hsecond := (List.cons_prefix_cons.1 hbefore).2
        have hback := (List.cons_prefix_cons.1 hsecond).1
        cases hback
      | m :: m' :: rest =>
        obtain ⟨rfl, hsecond⟩ := List.cons_prefix_cons.1 hbefore
        obtain ⟨rfl, hsome⟩ := List.cons_prefix_cons.1 hsecond
        exact hasking rest hsome

/-! ## What holds between turns -/

/-- As many clients are in use, and the pool is as large. -/
theorem kept_counts (connect : Nat → Connecting) (inUse size : Nat) :
    KeptByTurns connect fun pool => pool.inUse = inUse ∧ pool.size = size := by
  constructor
  · intro pool failure hcounts hfailed
    obtain ⟨answer, pool', htake, htakes⟩ := Pool.exists_takes (clientsOf connect) pool
    rw [htake] at hfailed ⊢
    cases htakes with
    | reused => cases hfailed
    | made => cases hfailed
    | failed => exact hcounts
    | full => exact hcounts
  · intro pool client hcounts hlent
    obtain ⟨answer, pool', htake, htakes⟩ := Pool.exists_takes (clientsOf connect) pool
    rw [htake] at hlent ⊢
    cases htakes with
    | reused => exact hcounts
    | made => exact hcounts
    | failed => cases hlent
    | full => cases hlent

/-- A client that is out is counted. -/
theorem counts_out {connect : Nat → Connecting} {pool : Pool Connection} {client : Connection}
    (h : (pool.take (clientsOf connect)).1 = .ok client) :
    (pool.take (clientsOf connect)).2.inUse = pool.inUse + 1 := by
  obtain ⟨answer, pool', htake, htakes⟩ := Pool.exists_takes (clientsOf connect) pool
  rw [htake] at h ⊢
  cases htakes with
  | reused => rfl
  | made => rfl
  | failed => cases h
  | full => cases h

/-- One client has been made at most, and if so one is idle. -/
def OneMade (connect : Nat → Connecting) (n : Nat) (pool : Pool Connection) : Prop :=
  (Pool.made (clientsOf connect) pool.asked).length = n ∨
    (Pool.made (clientsOf connect) pool.asked).length = n + 1 ∧ pool.idle ≠ []

theorem OneMade.le {connect : Nat → Connecting} {n : Nat} {pool : Pool Connection}
    (h : OneMade connect n pool) :
    (Pool.made (clientsOf connect) pool.asked).length ≤ n + 1 := by
  rcases h with h | ⟨h, -⟩
  · omega
  · omega

/-- A client that is out was idle, or is the first that is made. -/
theorem OneMade.out {connect : Nat → Connecting} {n : Nat} {pool : Pool Connection}
    (hone : OneMade connect n pool) :
    (Pool.made (clientsOf connect) (pool.take (clientsOf connect)).2.asked).length ≤ n + 1 := by
  obtain ⟨answer, pool', htake, htakes⟩ := Pool.exists_takes (clientsOf connect) pool
  rw [htake]
  cases htakes with
  | reused => exact hone.le
  | @made client hidle hroom hmade =>
    have hmore := Pool.length_made_succ_of_ok hmade
    rcases hone with hnone | ⟨-, hsome⟩
    · show (Pool.made (clientsOf connect) (pool.asked + 1)).length ≤ n + 1
      omega
    · exact absurd hidle hsome
  | @failed failure hidle hroom hfailed =>
    show (Pool.made (clientsOf connect) (pool.asked + 1)).length ≤ n + 1
    rw [Pool.made_succ_of_error hfailed]
    exact hone.le
  | full => exact hone.le

theorem kept_oneMade (connect : Nat → Connecting) (n : Nat) :
    KeptByTurns connect (OneMade connect n) := by
  constructor
  · intro pool failure hone hrefused
    obtain ⟨answer, pool', htake, htakes⟩ := Pool.exists_takes (clientsOf connect) pool
    rw [htake] at hrefused ⊢
    cases htakes with
    | reused => cases hrefused
    | made => cases hrefused
    | @failed failure hidle hroom hfailed =>
      unfold OneMade at hone ⊢
      rw [← Pool.made_succ_of_error hfailed] at hone
      exact hone
    | full => exact hone
  · intro pool client hone hlent
    have hle := hone.out
    have hidle : (Pool.giveBack client (pool.take (clientsOf connect)).2).idle ≠ [] :=
      List.cons_ne_nil _ _
    obtain ⟨answer, pool', htake, htakes⟩ := Pool.exists_takes (clientsOf connect) pool
    rw [htake] at hlent hle hidle ⊢
    cases htakes with
    | reused => exact hone.imp_right fun h => ⟨h.1, hidle⟩
    | @made client hnone hroom hmade =>
      have hmore := Pool.length_made_succ_of_ok hmade
      refine Or.inr ⟨?_, hidle⟩
      show (Pool.made (clientsOf connect) (pool.asked + 1)).length = n + 1
      rcases hone with hn | ⟨-, hsome⟩
      · omega
      · exact absurd hnone hsome
    | failed => cases hlent
    | full => cases hlent

/-- With room for one more nobody is refused but by the factory. -/
theorem granted_or_failed {connect : Nat → Connecting} {pool : Pool Connection} {failure : Failure}
    (hroom : pool.inUse < pool.size) (h : (pool.take (clientsOf connect)).1 = .error failure) :
    pool.asks = true ∧ clientsOf connect pool.asked = .error failure := by
  obtain ⟨answer, pool', htake, htakes⟩ := Pool.exists_takes (clientsOf connect) pool
  rw [htake] at h
  cases htakes with
  | reused => cases h
  | made => cases h
  | @failed refusal hidle hroom hfailed =>
    cases h
    exact ⟨by simp [Pool.asks, hidle, hroom], hfailed⟩
  | full hidle hfull => omega

/-! ## Moves that lend one client at a time -/

structure OneAtATime (connect : Nat → Connecting) (pool : Pool Connection) (moves : List Move) :
    Prop where
  returned : (poolAfter connect pool moves).inUse = pool.inUse
  one : ∀ before, before <+: moves →
    pool.inUse ≤ (poolAfter connect pool before).inUse ∧
      (poolAfter connect pool before).inUse ≤ pool.inUse + 1
  /-- With room for one more, taking a client fails only as the factory does. -/
  granted : pool.inUse < pool.size → ∀ before failure, before ++ [.take] <+: moves →
    ((poolAfter connect pool before).take (clientsOf connect)).1 = .error failure →
      (poolAfter connect pool before).asks = true ∧
        clientsOf connect (poolAfter connect pool before).asked = .error failure
  oneMade : ∀ before, before <+: moves →
    (Pool.made (clientsOf connect) (poolAfter connect pool before).asked).length
      ≤ (Pool.made (clientsOf connect) pool.asked).length + 1

theorem InTurns.oneAtATime {connect : Nat → Connecting} {pool : Pool Connection}
    {moves : List Move} (h : InTurns connect pool moves) : OneAtATime connect pool moves := by
  obtain ⟨⟨hend, -⟩, hcounts, hasking⟩ :=
    h.invariant (kept_counts connect pool.inUse pool.size) ⟨rfl, rfl⟩
  obtain ⟨-, hmade, -⟩ := h.invariant (kept_oneMade connect _) (Or.inl rfl)
  refine ⟨hend, ?_, ?_, ?_⟩
  · intro before hbefore
    rcases hcounts before hbefore with ⟨hinUse, -⟩ | ⟨rest, client, ⟨hinUse, -⟩, hlent, hout⟩
    · omega
    · have hone := counts_out hlent
      rw [hout]
      omega
  · intro hroom before failure hbefore hrefused
    obtain ⟨hinUse, hsize⟩ := hasking before hbefore
    exact granted_or_failed (by omega) hrefused
  · intro before hbefore
    rcases hmade before hbefore with hone | ⟨rest, client, hone, -, hout⟩
    · exact hone.le
    · rw [hout]
      exact hone.out

/-! ## Runs that take turns -/

/-- In every world the run makes moves in turns. -/
def TakesTurns (connect : Nat → Connecting) (x : Run State α) : Prop :=
  ∀ w, ∃ moves, Moves connect x w moves ∧ InTurns connect w.pool moves

theorem Bystander.takesTurns {x : Run State α} (h : Bystander x) (connect : Nat → Connecting) :
    TakesTurns connect x :=
  fun _ => ⟨[], .none h, .done⟩

theorem TakesTurns.goOn {connect : Nat → Connecting} {x : Run State α}
    {next : Except Failure α → Run State β} (hx : TakesTurns connect x)
    (hnext : ∀ answer, TakesTurns connect (next answer)) :
    TakesTurns connect (goOn x next) := by
  intro w
  obtain ⟨answer, w', h⟩ := exists_result x w
  obtain ⟨first, hmoves, hturns⟩ := hx w
  obtain ⟨later, hmovesLater, hturnsLater⟩ := hnext answer w'
  refine ⟨first ++ later, .goOn hmoves h hmovesLater, hturns.append ?_⟩
  rw [← hmoves.pool_eq h]
  exact hturnsLater

theorem TakesTurns.bind {connect : Nat → Connecting} {x : Run State α} {next : α → Run State β}
    (hx : TakesTurns connect x) (hnext : ∀ a, TakesTurns connect (next a)) :
    TakesTurns connect (x >>= next) := by
  rw [bind_eq_goOn]
  apply hx.goOn
  intro answer
  cases answer with
  | ok a => exact hnext a
  | error failure => exact (bystander_result (.error failure)).takesTurns connect

theorem withClient_eq_goOn (scene : Scene State Handle) (body : Connection → Run State α) :
    withClient scene body = goOn (takeClient scene) (ifOk fun client =>
      goOn (body client) fun answer => goOn (handBack client) fun _ => result answer) := by
  funext w
  cases hclient : clientNow scene w.pool with
  | error failure =>
    have hrefused : takeClient scene w = result (.error failure) (lent scene w) :=
      takeClient_error hclient
    rw [withClient_without hclient, goOn_eq hrefused]
    rfl
  | ok client =>
    obtain ⟨answer, w', hbody⟩ := exists_result (body client) (lent scene w)
    have htaken : takeClient scene w = result (.ok client) (lent scene w) := takeClient_ok hclient
    rw [goOn_eq htaken, ifOk_ok, goOn_eq hbody]
    cases answer with
    | ok a => exact withClient_ok hclient hbody
    | error failure => exact withClient_error hclient hbody

/-- A block takes one turn, if its body leaves the pool alone. -/
theorem takesTurns_withClient (scene : Scene State Handle) {body : Connection → Run State α}
    (hbody : ∀ client, Bystander (body client)) :
    TakesTurns scene.connect (withClient scene body) := by
  intro w
  rw [withClient_eq_goOn]
  cases hclient : clientNow scene w.pool with
  | error failure =>
    have hrefused : takeClient scene w = result (.error failure) (lent scene w) :=
      takeClient_error hclient
    exact ⟨_, .goOn (.take rfl) hrefused (.none (bystander_result (.error failure))),
      .refused hclient .done⟩
  | ok client =>
    have htaken : takeClient scene w = result (.ok client) (lent scene w) := takeClient_ok hclient
    obtain ⟨answer, w', hanswer⟩ := exists_result (body client) (lent scene w)
    have hback : handBack client w' = result (.ok ()) (w'.giveBack client) := rfl
    have hend : Moves scene.connect (goOn (handBack client) fun _ => result answer) w'
        [.giveBack client] :=
      .goOn .giveBack hback (.none (bystander_result answer))
    have hlater : Moves scene.connect
        (goOn (body client) fun answer => goOn (handBack client) fun _ => result answer)
        (lent scene w) [.giveBack client] :=
      .goOn (.none (hbody client)) hanswer hend
    exact ⟨[.take, .giveBack client], .goOn (.take rfl) htaken hlater, .lent hclient .done⟩

end Discovery

/-! ## Discovery takes turns -/

namespace Finder

/-- What a listing goes on with. -/
def listed : Except Failure (List TableName) → Run State (List TableName)
  | .error failure => result (.error (listingFailure failure))
  | .ok found => do
    perform (.log (.debug ("Found " ++ toString found.length ++ " candidate tables")))
    return found

theorem tables_eq_goOn (f : Finder) (scene : Scene State Handle) :
    f.tables scene = goOn (withClient scene (f.listAll scene)) listed := by
  funext w
  unfold tables goOn
  cases withClient scene (f.listAll scene) w with
  | ok found w' => rfl
  | error failure w' => rfl

theorem takesTurns_tables (f : Finder) (scene : Scene State Handle) :
    TakesTurns scene.connect (f.tables scene) := by
  rw [tables_eq_goOn]
  have hlist : ∀ client, Bystander (f.listAll scene client) :=
    fun client => .of_script (of_listAll f scene client)
  apply (takesTurns_withClient scene hlist).goOn
  intro answer
  apply Bystander.takesTurns
  cases answer with
  | ok found => exact (bystander_perform _).bind fun _ => bystander_result (.ok found)
  | error failure => exact bystander_result (.error (listingFailure failure))

theorem takesTurns_create (f : Finder) (scene : Scene State Handle) (n : TableName) :
    TakesTurns scene.connect (f.create scene n) := by
  rw [create_eq]
  apply takesTurns_withClient
  intro client
  apply (bystander_resolve scene f.source n).bind
  intro settings
  exact .of_script ⟨_, makeWith_eq_play scene client n settings⟩

/-- A failed attempt is reported, unless it stops the run. -/
def reporting (scene : Scene State Handle) (n : TableName) (failure : Failure) :
    Run State (Option (Dataset Handle)) :=
  if failure.stopsRun then throw failure
  else do
    log (.error ("Failed to create HiveDataset for table " ++ n.text))
    submit scene.sink (.failed n failure)
    return none

/-- What an attempt to make a dataset goes on with. -/
def attempted (scene : Scene State Handle) (n : TableName) :
    Except Failure (Option (Dataset Handle)) → Run State (Option (Dataset Handle))
  | .ok found => result (.ok found)
  | .error failure => reporting scene n failure

theorem visit_eq_goOn (f : Finder) (scene : Scene State Handle) (n : TableName) :
    f.visit scene n = goOn (f.create scene n) (attempted scene n) := by
  funext w
  unfold visit goOn
  cases f.create scene n w with
  | ok found w' => rfl
  | error failure w' =>
    show _ = reporting scene n failure w'
    by_cases hstops : failure.stopsRun = true
    · rw [reporting, if_pos hstops]
      exact if_pos hstops
    · rw [reporting, if_neg hstops]
      exact if_neg hstops

theorem bystander_reporting (scene : Scene State Handle) (n : TableName) (failure : Failure) :
    Bystander (reporting scene n failure) := by
  unfold reporting
  by_cases hstops : failure.stopsRun = true
  · rw [if_pos hstops]
    exact bystander_result (.error failure)
  · rw [if_neg hstops]
    apply (bystander_perform _).bind
    intro _
    apply (bystander_submit _ _).bind
    intro _
    exact bystander_result (.ok none)

theorem takesTurns_visit (f : Finder) (scene : Scene State Handle) (n : TableName) :
    TakesTurns scene.connect (f.visit scene n) := by
  rw [visit_eq_goOn]
  apply (takesTurns_create f scene n).goOn
  intro answer
  apply Bystander.takesTurns
  cases answer with
  | ok found => exact bystander_result (.ok found)
  | error failure => exact bystander_reporting scene n failure

theorem takesTurns_visitAll (f : Finder) (scene : Scene State Handle) (names : List TableName) :
    TakesTurns scene.connect (f.visitAll scene names) := by
  induction names with
  | nil => exact (bystander_result (.ok [])).takesTurns _
  | cons n rest ih =>
    rw [visitAll]
    apply (takesTurns_visit f scene n).bind
    intro found
    apply ih.bind
    intro others
    exact (bystander_result (.ok (found.toList ++ others))).takesTurns _

theorem takesTurns_datasets (f : Finder) (scene : Scene State Handle) :
    TakesTurns scene.connect (f.datasets scene) :=
  (takesTurns_tables f scene).bind (takesTurns_visitAll f scene)

end Finder

namespace Cursor

/-- A pull as a run.  Where the cursor stands after it is left out. -/
def pulling (f : Finder) (scene : Scene State Handle) (c : Cursor) :
    Run State (Option (Dataset Handle)) := fun w =>
  result (c.pull f scene w).answer (c.pull f scene w).world

/-- What a pull goes on with after a visit, if some tables are left. -/
def visited (f : Finder) (scene : Scene State Handle) (rest : List TableName) :
    Except Failure (Option (Dataset Handle)) → Run State (Option (Dataset Handle))
  | .error failure => result (.error failure)
  | .ok (some dataset) => result (.ok (some dataset))
  | .ok none => pulling f scene (.pending rest)

theorem pulling_cons (f : Finder) (scene : Scene State Handle) (n : TableName)
    (rest : List TableName) :
    pulling f scene (.pending (n :: rest)) = goOn (f.visit scene n) (visited f scene rest) := by
  funext w
  obtain ⟨answer, w', hvisit⟩ := exists_result (f.visit scene n) w
  rw [goOn_eq hvisit]
  simp only [pulling, pull, advance, hvisit]
  cases answer with
  | error failure => rfl
  | ok found =>
    cases found with
    | none => rfl
    | some dataset => rfl

theorem pulling_fresh (f : Finder) (scene : Scene State Handle) :
    pulling f scene .fresh
      = (f.tables scene >>= fun names => pulling f scene (.pending names)) := by
  funext w
  obtain ⟨answer, w', htables⟩ := exists_result (f.tables scene) w
  rw [bind_eq_goOn, goOn_eq htables]
  simp only [pulling, pull, htables]
  cases answer with
  | ok names => rfl
  | error failure => rfl

theorem takesTurns_pending (f : Finder) (scene : Scene State Handle) (names : List TableName) :
    TakesTurns scene.connect (pulling f scene (.pending names)) := by
  induction names with
  | nil => exact (bystander_result (.ok none)).takesTurns _
  | cons n rest ih =>
    rw [pulling_cons]
    apply (Finder.takesTurns_visit f scene n).goOn
    intro answer
    cases answer with
    | error failure => exact (bystander_result (.error failure)).takesTurns _
    | ok found =>
      cases found with
      | none => exact ih
      | some dataset => exact (bystander_result (.ok (some dataset))).takesTurns _

theorem takesTurns_pulling (f : Finder) (scene : Scene State Handle) (c : Cursor) :
    TakesTurns scene.connect (pulling f scene c) := by
  cases c with
  | fresh =>
    rw [pulling_fresh]
    exact (Finder.takesTurns_tables f scene).bind (takesTurns_pending f scene)
  | pending names => exact takesTurns_pending f scene names
  | finished => exact (bystander_result (.ok none)).takesTurns _

end Cursor

/-! ## Calls -/

/-- What may be asked of discovery: the tables, the datasets, or a pull of a cursor, wherever it
stands. -/
inductive Call (State Handle : Type) where
  | tables (f : Finder) (scene : Scene State Handle)
  | datasets (f : Finder) (scene : Scene State Handle)
  | pull (f : Finder) (scene : Scene State Handle) (c : Cursor)

namespace Call

def scene : Call State Handle → Scene State Handle
  | .tables _ scene => scene
  | .datasets _ scene => scene
  | .pull _ scene _ => scene

def Answer : Call State Handle → Type
  | .tables _ _ => List TableName
  | .datasets _ _ => List (Dataset Handle)
  | .pull _ _ _ => Option (Dataset Handle)

def run : (call : Call State Handle) → Run State call.Answer
  | .tables f scene => f.tables scene
  | .datasets f scene => f.datasets scene
  | .pull f scene c => c.pulling f scene

/-- Calls one after another, whether they fail or not. -/
def runAll : List (Call State Handle) → Run State Unit
  | [] => result (.ok ())
  | call :: rest => goOn call.run fun _ => runAll rest

theorem takesTurns_run (call : Call State Handle) : TakesTurns call.scene.connect call.run := by
  cases call with
  | tables f scene => exact f.takesTurns_tables scene
  | datasets f scene => exact f.takesTurns_datasets scene
  | pull f scene c => exact c.takesTurns_pulling f scene

theorem takesTurns_runAll {connect : Nat → Connecting} {calls : List (Call State Handle)}
    (hconnect : ∀ call ∈ calls, call.scene.connect = connect) :
    TakesTurns connect (runAll calls) := by
  induction calls with
  | nil => exact (bystander_result (.ok ())).takesTurns connect
  | cons call rest ih =>
    obtain ⟨hcall, hrest⟩ := List.forall_mem_cons.1 hconnect
    have hrun := takesTurns_run call
    rw [hcall] at hrun
    exact hrun.goOn fun _ => ih hrest

theorem runAll_ok (calls : List (Call State Handle)) (w : World State) :
    ∃ w', runAll calls w = .ok () w' := by
  induction calls generalizing w with
  | nil => exact ⟨w, rfl⟩
  | cons call rest ih =>
    obtain ⟨answer, w₁, hrun⟩ := exists_result call.run w
    obtain ⟨w', hrest⟩ := ih w₁
    refine ⟨w', ?_⟩
    rw [runAll, goOn_eq hrun]
    exact hrest

/-- In every world, the moves of the run are all that happens to the pool, and they lend one client
at a time. -/
def LendsOne (connect : Nat → Connecting) (x : Run State α) : Prop :=
  ∀ w, ∃ answer w' moves, x w = result answer w' ∧ Moves connect x w moves ∧
    w'.pool = poolAfter connect w.pool moves ∧ OneAtATime connect w.pool moves

theorem lendsOne_of_takesTurns {connect : Nat → Connecting} {x : Run State α}
    (h : TakesTurns connect x) : LendsOne connect x := by
  intro w
  obtain ⟨moves, hmoves, hturns⟩ := h w
  obtain ⟨answer, w', hresult⟩ := exists_result x w
  exact ⟨answer, w', moves, hresult, hmoves, hmoves.pool_eq hresult, hturns.oneAtATime⟩

/-- Every call, in whatever world and whatever fails in it, gives back what it takes, holds one
client at most, and is refused none by a pool that has room for one more.  The same holds of calls
one after another, and from a fresh pool, be it of size one, they make one client at most. -/
theorem discovery_lends_one :
    (∀ call : Call State Handle, LendsOne call.scene.connect call.run) ∧
      ∀ (connect : Nat → Connecting) (calls : List (Call State Handle)),
        (∀ call ∈ calls, call.scene.connect = connect) →
          LendsOne connect (runAll calls) ∧
          ∀ (size : Int) (w : World State), Pool.ofSize size = .ok w.pool →
            ∃ w', runAll calls w = .ok () w' ∧ w'.pool.inUse = 0 ∧
              (Pool.made (clientsOf connect) w'.pool.asked).length ≤ 1 := by
  refine ⟨fun call => lendsOne_of_takesTurns call.takesTurns_run, ?_⟩
  intro connect calls hconnect
  have hlends : LendsOne connect (runAll calls) :=
    lendsOne_of_takesTurns (takesTurns_runAll hconnect)
  refine ⟨hlends, ?_⟩
  intro size w hfresh
  obtain ⟨answer, w', moves, hresult, -, hpool, hone⟩ := hlends w
  obtain ⟨w₁, hend⟩ := runAll_ok calls w
  have hsame : result answer w' = result (.ok ()) w₁ := hresult.symm.trans hend
  obtain ⟨-, rfl⟩ := result_inj hsame
  refine ⟨w', hend, ?_, ?_⟩
  · rw [hpool, hone.returned]
    exact (Pool.ofSize_ok hfresh).1
  · have hmade := hone.oneMade moves (List.prefix_refl moves)
    rw [(Pool.ofSize_ok hfresh).2] at hmade
    rw [hpool]
    exact hmade

/-! ## A run that the user stops -/

/-- The first client cannot be had, and the report of a found table is stopped. -/
def interruptedScene : Scene Unit Unit :=
  { sampleScene with
    connect n := ⟨[], if n = 0 then .error (.outage ⟨.connection, none⟩)
      else .ok ⟨none, none, "main"⟩⟩
    sink _ := .refused (.outage ⟨.interrupt, none⟩) }

def interruptedCalls : List (Call Unit Unit) :=
  [.tables sampleFinder interruptedScene, .datasets sampleFinder interruptedScene,
    .pull sampleFinder interruptedScene .fresh]

theorem discovery_lends_one_of_interrupted :
    (∃ w', sampleFinder.tables interruptedScene sampleWorld
      = .error (.unlisted (.outage ⟨.connection, none⟩)) w' ∧
      ∃ w'', sampleFinder.datasets interruptedScene w' = .error (.outage ⟨.interrupt, none⟩) w'') ∧
      (∀ call ∈ interruptedCalls, call.scene.connect = interruptedScene.connect) ∧
      Pool.ofSize 1 = .ok sampleWorld.pool ∧
      ∃ w', runAll interruptedCalls sampleWorld = .ok () w' ∧ w'.pool.inUse = 0 ∧
        (Pool.made (clientsOf interruptedScene.connect) w'.pool.asked).length ≤ 1 := by
  have hconnect : ∀ call ∈ interruptedCalls, call.scene.connect = interruptedScene.connect := by
    simp [interruptedCalls, Call.scene]
  have hfresh : Pool.ofSize 1 = .ok sampleWorld.pool := rfl
  refine ⟨⟨_, rfl, _, rfl⟩, hconnect, hfresh, ?_⟩
  exact (discovery_lends_one.2 interruptedScene.connect interruptedCalls hconnect).2 1 sampleWorld
    hfresh

end Call
end CatalogScout
