import CatalogScout.Proofs.Pool.Conservation

/-!
Blocks inside of blocks.

Code that leaves its blocks in the opposite order of entering them uses the idle clients as a stack.
Whatever such code did, and however its blocks were left, the clients that were idle before are idle
again in their old order, and the ones that were made since are behind them in the order in which
they were made.  So the client of a block depends only on how deep the block lies, and code that
runs a second time gets the same clients.
-/

namespace CatalogScout

variable {Client : Type}

/-- Code that holds clients in blocks, one inside of the other or one after the other. -/
inductive Nesting (Client : Type) where
  /-- The end, where a failure may be raised. -/
  | ends (raised : Option Failure)
  /-- A block, whose body goes by its client.  The code behind it goes by the failure that kept the
  block from being entered or that its body raised; it may handle the failure or raise it again. -/
  | block (body : Client → Nesting Client) (rest : Option Failure → Nesting Client)

namespace Nesting

/-- What a run comes to. -/
structure Run (Client : Type) where
  raised : Option Failure
  /-- What was answered each time when a block was to be entered. -/
  answers : List (Except Failure Client)
  pool : Pool Client

def run (factory : Nat → Except Failure Client) : Nesting Client → Pool Client → Run Client
  | .ends raised, p => ⟨raised, [], p⟩
  | .block body rest, p =>
    match p.take factory with
    | (.error failure, p) =>
      let behind := (rest (some failure)).run factory p
      { behind with answers := .error failure :: behind.answers }
    | (.ok client, p) =>
      let inside := (body client).run factory p
      let behind := (rest inside.raised).run factory (inside.pool.giveBack client)
      { behind with answers := .ok client :: (inside.answers ++ behind.answers) }

/-- As many blocks as given, each inside of the one before; what the innermost raises goes through
all of them. -/
def nest (raised : Option Failure) : Nat → Nesting Client
  | 0 => .ends raised
  | depth + 1 => .block (fun _ => nest raised depth) .ends

end Nesting

namespace Pool

variable {factory : Nat → Except Failure Client} {p p' p'' : Pool Client}

/-- A pool to which everything was given back: as it was before, with clients made since behind the
idle ones. -/
structure Grows (factory : Nat → Except Failure Client) (p p' : Pool Client)
    (created : List Client) : Prop where
  size_eq : p'.size = p.size
  inUse_eq : p'.inUse = p.inUse
  idle_eq : p'.idle = p.idle ++ created
  asked_le : p.asked ≤ p'.asked
  made_eq : made factory p'.asked = made factory p.asked ++ created

namespace Grows

theorem refl (factory : Nat → Except Failure Client) (p : Pool Client) : Grows factory p p [] :=
  ⟨rfl, rfl, (List.append_nil _).symm, Nat.le_refl _, (List.append_nil _).symm⟩

theorem trans {created created' : List Client} (h : Grows factory p p' created)
    (h' : Grows factory p' p'' created') : Grows factory p p'' (created ++ created') := by
  refine ⟨h'.size_eq.trans h.size_eq, h'.inUse_eq.trans h.inUse_eq, ?_,
    Nat.le_trans h.asked_le h'.asked_le, ?_⟩
  · rw [h'.idle_eq, h.idle_eq, List.append_assoc]
  · rw [h'.made_eq, h.made_eq, List.append_assoc]

/-- Who gets no client leaves the pool alone. -/
theorem of_refused {failure : Failure} (h : Takes factory p (.error failure) p') :
    Grows factory p p' [] := by
  cases h with
  | failed hidle hroom hfailed =>
    refine ⟨rfl, rfl, (List.append_nil _).symm, Nat.le_succ _, ?_⟩
    rw [List.append_nil]
    exact made_succ_of_error hfailed
  | full hidle hfull => exact refl factory p

/-- Around a pool that grows while a client is out, the client comes back to where it was taken, or
to where it belongs as the first that was made. -/
theorem around {client : Client} {created : List Client}
    (htakes : Takes factory p (.ok client) p') (h : Grows factory p' p'' created) :
    ∃ created', Grows factory p (p''.giveBack client) created' := by
  have hinUse : p''.inUse - 1 = p.inUse := by
    have hout := htakes.inUse_ok
    rw [h.inUse_eq, hout]
    rfl
  have hidle := h.idle_eq
  have hmade := h.made_eq
  cases htakes with
  | @reused _ rest hreused =>
    refine ⟨created, h.size_eq, hinUse, ?_, h.asked_le, hmade⟩
    show client :: p''.idle = p.idle ++ created
    rw [hidle, hreused]
    rfl
  | made hnone hroom hclient =>
    refine ⟨client :: created, h.size_eq, hinUse, ?_, Nat.le_of_succ_le h.asked_le, ?_⟩
    · show client :: p''.idle = p.idle ++ client :: created
      rw [hidle, hnone]
      rfl
    · show made factory p''.asked = made factory p.asked ++ client :: created
      rw [hmade, made_succ_of_ok hclient, List.append_assoc]
      rfl

end Grows

/-- The pool began empty, and blocks were entered and left since. -/
def Reachable (factory : Nat → Except Failure Client) (p : Pool Client) : Prop :=
  ∃ (size : Int) (start : Pool Client) (steps : List Blocks.Step),
    ofSize size = .ok start ∧ ((Blocks.ofPool start).after factory steps).pool = p

theorem Reachable.fits (h : Reachable factory p) : p.Fits := by
  obtain ⟨size, start, steps, hstart, rfl⟩ := h
  unfold ofSize at hstart
  split at hstart
  · cases hstart
    let fresh : Pool Client := ⟨size.toNat, by omega, [], 0, 0⟩
    have hfresh : Blocks.Balanced factory fresh.size (Blocks.ofPool fresh) :=
      Blocks.Balanced.ofPool rfl rfl rfl
    have hbalanced := hfresh.after steps
    have hcount := hbalanced.length_made
    have hmade := hbalanced.made_le
    rw [Fits, hbalanced.inUse_eq, hbalanced.size_eq, ← hcount]
    exact hmade
  · cases hstart

end Pool

namespace Nesting

open Pool

variable {factory : Nat → Except Failure Client} {p : Pool Client}
  {body : Client → Nesting Client} {rest : Option Failure → Nesting Client}

theorem run_block_error {failure : Failure} {p' : Pool Client}
    (h : p.take factory = (.error failure, p')) :
    (block body rest).run factory p
      = { (rest (some failure)).run factory p' with
          answers := .error failure :: ((rest (some failure)).run factory p').answers } := by
  simp only [run, h]

theorem run_block_ok {client : Client} {p' : Pool Client} {inside behind : Run Client}
    (h : p.take factory = (.ok client, p')) (hinside : (body client).run factory p' = inside)
    (hbehind : (rest inside.raised).run factory (inside.pool.giveBack client) = behind) :
    (block body rest).run factory p
      = { behind with answers := .ok client :: (inside.answers ++ behind.answers) } := by
  simp only [run, h, hinside, hbehind]

/-! ## What a run does to the pool -/

theorem run_grows (factory : Nat → Except Failure Client) (code : Nesting Client)
    (p : Pool Client) : ∃ created, Grows factory p (code.run factory p).pool created := by
  induction code generalizing p with
  | ends raised => exact ⟨[], Grows.refl factory p⟩
  | block body rest ihbody ihrest =>
    obtain ⟨answer, p', htake, htakes⟩ := exists_takes factory p
    cases answer with
    | error failure =>
      rw [run_block_error htake]
      obtain ⟨created, hgrows⟩ := ihrest (some failure) p'
      exact ⟨_, (Grows.of_refused htakes).trans hgrows⟩
    | ok client =>
      rw [run_block_ok htake rfl rfl]
      obtain ⟨inner, hinner⟩ := ihbody client p'
      obtain ⟨around, haround⟩ := Grows.around htakes hinner
      obtain ⟨outer, houter⟩ := ihrest ((body client).run factory p').raised
        (((body client).run factory p').pool.giveBack client)
      exact ⟨_, haround.trans houter⟩

/-- Nested code is one way to enter and leave blocks. -/
theorem exists_steps (factory : Nat → Except Failure Client) (code : Nesting Client)
    (p : Pool Client) (opened : List (String × Client)) :
    ∃ steps : List Blocks.Step, (⟨p, opened⟩ : Blocks Client).after factory steps
      = ⟨(code.run factory p).pool, opened⟩ := by
  induction code generalizing p opened with
  | ends raised => exact ⟨[], rfl⟩
  | block body rest ihbody ihrest =>
    obtain ⟨answer, p', htake, -⟩ := exists_takes factory p
    cases answer with
    | error failure =>
      obtain ⟨steps, hsteps⟩ := ihrest (some failure) p' opened
      refine ⟨.enter "" :: steps, ?_⟩
      have henter := Blocks.enter_error (b := ⟨p, opened⟩) htake ""
      rw [run_block_error htake, ← hsteps, Blocks.after, List.foldl_cons, Blocks.Step.after, henter]
      rfl
    | ok client =>
      obtain ⟨inner, hinner⟩ := ihbody client p' (("", client) :: opened)
      generalize hinside : (body client).run factory p' = inside at hinner
      obtain ⟨outer, houter⟩ := ihrest inside.raised (inside.pool.giveBack client) opened
      refine ⟨.enter "" :: (inner ++ .leave "" inside.raised :: outer), ?_⟩
      have henter := Blocks.enter_ok (b := ⟨p, opened⟩) htake ""
      have hleave : (⟨inside.pool, ("", client) :: opened⟩ : Blocks Client).leave ""
          = ⟨inside.pool.giveBack client, opened⟩ := by
        simp [Blocks.leave]
      rw [Blocks.after] at hinner houter ⊢
      rw [run_block_ok htake hinside rfl, ← houter, List.foldl_cons, Blocks.Step.after, henter,
        List.foldl_append, hinner, List.foldl_cons, Blocks.Step.after, hleave]

theorem reachable_run (h : Reachable factory p) (code : Nesting Client) :
    Reachable factory (code.run factory p).pool := by
  obtain ⟨size, start, steps, hstart, rfl⟩ := h
  obtain ⟨more, hmore⟩ := code.exists_steps factory _
    ((Blocks.ofPool start).after factory steps).opened
  refine ⟨size, start, steps ++ more, hstart, ?_⟩
  rw [Blocks.after_append]
  exact congrArg Blocks.pool hmore

end Nesting

/-! ## Running again -/

namespace Pool

/-- The factory made a client each time it was asked while one pool became the other. -/
def NeverFailed (factory : Nat → Except Failure Client) (p p' : Pool Client) : Prop :=
  ∀ n, p.asked ≤ n → n < p'.asked → ∃ client, factory n = .ok client

theorem NeverFailed.mono {q q' : Pool Client} (h : NeverFailed factory p p')
    (hfrom : p.asked ≤ q.asked) (hto : q'.asked ≤ p'.asked) : NeverFailed factory q q' := by
  intro n hn hn'
  exact h n (Nat.le_trans hfrom hn) (Nat.lt_of_lt_of_le hn' hto)

theorem NeverFailed.trans (h : NeverFailed factory p p') (h' : NeverFailed factory p' p'') :
    NeverFailed factory p p'' := by
  intro n hfrom hto
  by_cases hin : n < p'.asked
  · exact h n hfrom hin
  · exact h' n (Nat.le_of_not_lt hin) hto

/-- Where a client was handed out, none was asked for in vain. -/
theorem Takes.neverFailed {client : Client} (h : Takes factory p (.ok client) p') :
    NeverFailed factory p p' := by
  intro n hfrom hto
  cases h with
  | reused hidle => exact absurd hto (Nat.not_lt.2 hfrom)
  | made hnone hroom hclient =>
    obtain rfl : n = p.asked := Nat.le_antisymm (Nat.le_of_lt_succ hto) hfrom
    exact ⟨client, hclient⟩

/-- The pools differ in their idle clients only, and the second one is not overfull. -/
structure Alike (p q : Pool Client) : Prop where
  size_eq : q.size = p.size
  inUse_eq : q.inUse = p.inUse
  fits : q.Fits

namespace Alike

variable {q : Pool Client} {client : Client} {idle created : List Client}

theorem grown (h : Alike p q) (hgrows : Grows factory p p' created) : Alike p' q :=
  ⟨h.size_eq.trans hgrows.size_eq.symm, h.inUse_eq.trans hgrows.inUse_eq.symm, h.fits⟩

/-- A client that one pool hands out is handed out by the other if it is the first of its idle
ones. -/
theorem take (h : Alike p q) (htakes : Takes factory p (.ok client) p')
    (hidle : client :: idle <+: q.idle) :
    ∃ q', q.take factory = (.ok client, q') ∧ q'.giveBack client = q ∧ Alike p' q' ∧
      idle <+: q'.idle := by
  obtain ⟨behind, hbehind⟩ := hidle
  have htake := take_of_idle factory (p := q) hbehind.symm
  obtain ⟨answer, q', htake', htakes'⟩ := exists_takes factory q
  rw [htake] at htake'
  obtain ⟨rfl, rfl⟩ := Prod.mk.inj htake'
  refine ⟨_, htake, ?_, ⟨?_, ?_, htakes'.fits h.fits⟩, List.prefix_append _ _⟩
  · show ({ q with idle := client :: (idle ++ behind), inUse := q.inUse + 1 - 1 } : Pool Client)
      = q
    rw [← List.cons_append, hbehind]
    rfl
  · rw [htakes.size_eq]
    exact h.size_eq
  · rw [htakes.inUse_ok, ← h.inUse_eq]

/-- If one pool has all clients out, the other one has none idle either. -/
theorem take_full (h : Alike p q) (hfull : p.size ≤ p.inUse) :
    q.take factory = (.error (.poolExhausted p.size), q) := by
  have hsize := h.size_eq
  have hinUse := h.inUse_eq
  have hfits := h.fits
  unfold Fits at hfits
  have hempty : q.idle = [] := by
    rw [← List.length_eq_zero_iff]
    omega
  rw [← hsize]
  exact take_of_full factory hempty (by omega)

end Alike

end Pool

namespace Nesting

open Pool

variable {factory : Nat → Except Failure Client} {p q : Pool Client}

/-- With the idle clients that a run left, and perhaps more behind them, the same code gets the same
clients, and none is made. -/
theorem run_again (code : Nesting Client)
    (hmade : NeverFailed factory p (code.run factory p).pool) (halike : Alike p q)
    (hidle : (code.run factory p).pool.idle <+: q.idle) :
    code.run factory q = { code.run factory p with pool := q } := by
  induction code generalizing p q with
  | ends raised => rfl
  | block body rest ihbody ihrest =>
    obtain ⟨answer, p', htake, htakes⟩ := exists_takes factory p
    cases answer with
    | error failure =>
      rw [run_block_error htake] at hmade hidle ⊢
      obtain ⟨created, hgrows⟩ := (rest (some failure)).run_grows factory p'
      cases htakes with
      | failed hnone hroom hfailed =>
        obtain ⟨client, hclient⟩ := hmade p.asked (Nat.le_refl _) hgrows.asked_le
        rw [hfailed] at hclient
        cases hclient
      | full hnone hfull =>
        rw [run_block_error (halike.take_full hfull), ihrest _ hmade halike hidle]
    | ok client =>
      generalize hinside : (body client).run factory p' = inside
      generalize hbehind :
        (rest inside.raised).run factory (inside.pool.giveBack client) = behind
      rw [run_block_ok htake hinside hbehind] at hmade hidle ⊢
      obtain ⟨inner, hinner⟩ := (body client).run_grows factory p'
      obtain ⟨outer, houter⟩ := (rest inside.raised).run_grows factory
        (inside.pool.giveBack client)
      rw [hinside] at hinner
      rw [hbehind] at houter
      obtain ⟨around, haround⟩ := Grows.around htakes hinner
      -- What the block used, its own client first, is in front of all that is idle now.
      have hfront : client :: inside.pool.idle <+: q.idle := by
        refine List.IsPrefix.trans ?_ hidle
        show (inside.pool.giveBack client).idle <+: behind.pool.idle
        rw [houter.idle_eq]
        exact List.prefix_append _ _
      obtain ⟨q', htake', hback, halike', hused⟩ := halike.take htakes hfront
      have hbody : (body client).run factory q' = { inside with pool := q' } := by
        rw [← hinside]
        refine ihbody client ?_ halike' ?_
        · rw [hinside]
          exact hmade.mono htakes.asked_le houter.asked_le
        · rwa [hinside]
      have hrest : (rest inside.raised).run factory (q'.giveBack client)
          = { behind with pool := q } := by
        rw [hback, ← hbehind]
        refine ihrest inside.raised ?_ (halike.grown haround) ?_
        · rw [hbehind]
          exact hmade.mono haround.asked_le (Nat.le_refl _)
        · rwa [hbehind]
      rw [run_block_ok htake' hbody hrest]

/-- If every block could be entered, no attempt to make a client failed. -/
theorem neverFailed_of_entered (code : Nesting Client)
    (h : ∀ answer ∈ (code.run factory p).answers, ∃ client, answer = .ok client) :
    NeverFailed factory p (code.run factory p).pool := by
  induction code generalizing p with
  | ends raised => exact fun n hfrom hto => absurd hto (Nat.not_lt.2 hfrom)
  | block body rest ihbody ihrest =>
    obtain ⟨answer, p', htake, htakes⟩ := exists_takes factory p
    cases answer with
    | error failure =>
      rw [run_block_error htake] at h
      obtain ⟨client, hclient⟩ := h _ List.mem_cons_self
      cases hclient
    | ok client =>
      generalize hinside : (body client).run factory p' = inside
      generalize hbehind :
        (rest inside.raised).run factory (inside.pool.giveBack client) = behind
      rw [run_block_ok htake hinside hbehind] at h ⊢
      have hbody : NeverFailed factory p' inside.pool := by
        rw [← hinside]
        refine ihbody client fun answer hanswer => h answer ?_
        rw [hinside] at hanswer
        exact List.mem_cons_of_mem _ (List.mem_append_left _ hanswer)
      have hrest : NeverFailed factory (inside.pool.giveBack client) behind.pool := by
        rw [← hbehind]
        refine ihrest inside.raised fun answer hanswer => h answer ?_
        rw [hbehind] at hanswer
        exact List.mem_cons_of_mem _ (List.mem_append_right _ hanswer)
      exact (htakes.neverFailed.trans hbody).trans hrest

/-- Blocks one inside of the other take clients one after another. -/
theorem run_nest {depth : Nat} {clients : List Client} (raised : Option Failure)
    (h : p.takeMany factory depth = (.ok clients, q)) :
    (nest raised depth).run factory p = ⟨raised, clients.map .ok, q.giveBackAll clients⟩ := by
  induction depth generalizing p clients with
  | zero =>
    obtain ⟨hnone, rfl⟩ := Prod.mk.inj h
    cases hnone
    rfl
  | succ depth ih =>
    rw [takeMany] at h
    split at h
    · cases h
    · next client p' htake =>
      split at h
      · cases h
      · next deeper q' hdeeper =>
        obtain ⟨hclients, rfl⟩ := Prod.mk.inj h
        cases hclients
        rw [nest, run_block_ok htake (ih hdeeper) rfl]
        simp [run, giveBackAll]

/-- A pool that blocks have used somehow serves nested code as a stack.  When the code has ended,
whichever blocks could not be entered or were left by a failure, as many clients are out as before,
and the idle ones, in the order in which they will be handed out, are those from before and then
those that were made meanwhile, the first one first.  If no attempt to make a client failed, the
code run again gets the same answers, ends the same and changes nothing.  So it is with blocks one
inside of the other, as many as can be entered. -/
theorem nested_blocks_stack (h : Reachable factory p) :
    (∀ code : Nesting Client,
      let r := code.run factory p
      (∃ created, made factory r.pool.asked = made factory p.asked ++ created ∧
        r.pool.idle = p.idle ++ created ∧ r.pool.inUse = p.inUse) ∧
      (NeverFailed factory p r.pool → code.run factory r.pool = r)) ∧
    ∀ depth raised clients q, p.takeMany factory depth = (.ok clients, q) →
      let r := (nest raised depth).run factory p
      r = ⟨raised, clients.map .ok, q.giveBackAll clients⟩ ∧
        (nest raised depth).run factory r.pool = r := by
  have hagain : ∀ code : Nesting Client, NeverFailed factory p (code.run factory p).pool →
      code.run factory (code.run factory p).pool = code.run factory p := by
    intro code hmade
    obtain ⟨created, hgrows⟩ := code.run_grows factory p
    have halike : Alike p (code.run factory p).pool :=
      ⟨hgrows.size_eq, hgrows.inUse_eq, (reachable_run h code).fits⟩
    exact code.run_again hmade halike (List.prefix_refl _)
  refine ⟨fun code => ⟨?_, hagain code⟩, ?_⟩
  · obtain ⟨created, hgrows⟩ := code.run_grows factory p
    exact ⟨created, hgrows.made_eq, hgrows.idle_eq, hgrows.inUse_eq⟩
  · intro depth raised clients q htakes
    have hrun := run_nest raised htakes
    refine ⟨hrun, hagain _ (neverFailed_of_entered _ ?_)⟩
    rw [hrun]
    intro answer hanswer
    obtain ⟨client, -, rfl⟩ := List.mem_map.1 hanswer
    exact ⟨client, rfl⟩

/-- A pool of two, with the client of a block idle that was open while making another one failed. -/
def usedPool : Pool Nat := ⟨2, by decide, [0], 0, 2⟩

theorem reachable_usedPool : Reachable Blocks.flaky usedPool :=
  ⟨2, ⟨2, by decide, [], 0, 0⟩, [.enter "a", .enter "b", .leave "a" none], rfl, rfl⟩

theorem nested_blocks_stack_of_two :
    let interrupted : Option Failure := some (.outage ⟨.interrupt, none⟩)
    let r := (nest interrupted 2).run Blocks.flaky usedPool
    Reachable Blocks.flaky usedPool ∧ NeverFailed Blocks.flaky usedPool r.pool ∧
      usedPool.takeMany Blocks.flaky 2 = (.ok [0, 2], ⟨2, by decide, [], 2, 3⟩) ∧
      r = ⟨interrupted, [.ok 0, .ok 2], ⟨2, by decide, [0, 2], 0, 3⟩⟩ ∧
      (∃ created, made Blocks.flaky r.pool.asked = made Blocks.flaky usedPool.asked ++ created ∧
        r.pool.idle = usedPool.idle ++ created) ∧
      (nest interrupted 2).run Blocks.flaky r.pool = r := by
  intro interrupted r
  obtain ⟨hcode, hnest⟩ := nested_blocks_stack reachable_usedPool
  obtain ⟨⟨created, hmade, hidle, -⟩, hagain⟩ := hcode (nest interrupted 2)
  have htakes : usedPool.takeMany Blocks.flaky 2 = (.ok [0, 2], ⟨2, by decide, [], 2, 3⟩) := rfl
  have hnever : NeverFailed Blocks.flaky usedPool r.pool := by
    intro n hfrom hto
    have htwo : n = 2 := Nat.le_antisymm (Nat.le_of_lt_succ hto) hfrom
    exact ⟨2, by rw [htwo]; rfl⟩
  exact ⟨reachable_usedPool, hnever, htakes, (hnest 2 interrupted _ _ htakes).1,
    ⟨created, hmade, hidle⟩, hagain hnever⟩

end Nesting
end CatalogScout
