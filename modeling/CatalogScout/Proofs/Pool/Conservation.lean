import CatalogScout.Pool.Basic
import Mathlib.Data.List.Induction
import Mathlib.Data.List.Nodup
import Mathlib.Order.Bounds.Defs

/-!
Nothing a pool has made is lost, and nothing is lent twice.

Every client that the factory made is either held by one open block or idle, and stands there
once.  This is one permutation, which entering and leaving keep in whatever order blocks are
entered and left; the counts of a pool are its lengths.
-/

namespace CatalogScout

variable {Client : Type}

namespace Pool

/-! ## What taking a client comes to -/

/-- All that taking a client can come to, and the pool after it. -/
inductive Takes (factory : Nat → Except Failure Client) (p : Pool Client) :
    Except Failure Client → Pool Client → Prop where
  | reused {client : Client} {rest : List Client} (hidle : p.idle = client :: rest) :
      Takes factory p (.ok client) { p with idle := rest, inUse := p.inUse + 1 }
  | made {client : Client} (hidle : p.idle = []) (hroom : p.inUse < p.size)
      (hmade : factory p.asked = .ok client) :
      Takes factory p (.ok client) { p with inUse := p.inUse + 1, asked := p.asked + 1 }
  | failed {failure : Failure} (hidle : p.idle = []) (hroom : p.inUse < p.size)
      (hfailed : factory p.asked = .error failure) :
      Takes factory p (.error failure) { p with asked := p.asked + 1 }
  | full (hidle : p.idle = []) (hfull : p.size ≤ p.inUse) :
      Takes factory p (.error (.poolExhausted p.size)) p

theorem exists_takes (factory : Nat → Except Failure Client) (p : Pool Client) :
    ∃ answer p', p.take factory = (answer, p') ∧ Takes factory p answer p' := by
  cases hidle : p.idle with
  | cons client rest => exact ⟨_, _, take_of_idle factory hidle, .reused hidle⟩
  | nil =>
    by_cases hroom : p.inUse < p.size
    · cases hclient : factory p.asked with
      | ok client =>
        have htake : p.take factory
            = (.ok client, { p with inUse := p.inUse + 1, asked := p.asked + 1 }) := by
          simp [take, hidle, hroom, hclient]
        exact ⟨_, _, htake, .made hidle hroom hclient⟩
      | error failure =>
        have htake : p.take factory = (.error failure, { p with asked := p.asked + 1 }) := by
          simp [take, hidle, hroom, hclient]
        exact ⟨_, _, htake, .failed hidle hroom hclient⟩
    · have hfull : p.size ≤ p.inUse := Nat.le_of_not_lt hroom
      exact ⟨_, _, take_of_full factory hidle hfull, .full hidle hfull⟩

section Takes

variable {factory : Nat → Except Failure Client} {p p' : Pool Client}

/-- No more clients are out or idle than the pool is meant for. -/
def Fits (p : Pool Client) : Prop := p.inUse + p.idle.length ≤ p.size

theorem Takes.fits {answer : Except Failure Client} (h : Takes factory p answer p')
    (hfits : p.Fits) : p'.Fits := by
  unfold Fits at *
  cases h with
  | @reused client rest hidle =>
    rw [hidle, List.length_cons] at hfits
    show p.inUse + 1 + rest.length ≤ p.size
    omega
  | made hidle hroom hmade =>
    show p.inUse + 1 + p.idle.length ≤ p.size
    rw [hidle, List.length_nil]
    omega
  | failed hidle hroom hfailed => exact hfits
  | full hidle hfull => exact hfits

theorem Takes.size_eq {answer : Except Failure Client} (h : Takes factory p answer p') :
    p'.size = p.size := by
  cases h with
  | reused hidle => rfl
  | made hidle hroom hmade => rfl
  | failed hidle hroom hfailed => rfl
  | full hidle hfull => rfl

theorem Takes.asked_le {answer : Except Failure Client} (h : Takes factory p answer p') :
    p.asked ≤ p'.asked := by
  cases h with
  | reused hidle => exact Nat.le_refl _
  | made hidle hroom hmade => exact Nat.le_succ _
  | failed hidle hroom hfailed => exact Nat.le_succ _
  | full hidle hfull => exact Nat.le_refl _

theorem Takes.inUse_ok {client : Client} (h : Takes factory p (.ok client) p') :
    p'.inUse = p.inUse + 1 := by
  cases h with
  | reused hidle => rfl
  | made hidle hroom hmade => rfl

theorem Takes.inUse_error {failure : Failure} (h : Takes factory p (.error failure) p') :
    p'.inUse = p.inUse := by
  cases h with
  | failed hidle hroom hfailed => rfl
  | full hidle hfull => rfl

end Takes

theorem ofSize_ok {size : Int} {pool : Pool Client} (h : ofSize size = .ok pool) :
    pool.inUse = 0 ∧ pool.asked = 0 := by
  unfold ofSize at h
  split at h
  · cases h
    exact ⟨rfl, rfl⟩
  · cases h

/-! ## The clients that were made -/

/-- The clients that a factory made, if it was asked so often. -/
def made (factory : Nat → Except Failure Client) (asked : Nat) : List Client :=
  (List.range asked).filterMap fun n => (factory n).toOption

theorem made_succ_of_ok {factory : Nat → Except Failure Client} {n : Nat} {client : Client}
    (h : factory n = .ok client) : made factory (n + 1) = made factory n ++ [client] := by
  rw [made, List.range_succ, List.filterMap_append, ← made]
  simp [h, Except.toOption]

theorem made_succ_of_error {factory : Nat → Except Failure Client} {n : Nat} {failure : Failure}
    (h : factory n = .error failure) : made factory (n + 1) = made factory n := by
  rw [made, List.range_succ, List.filterMap_append, ← made]
  simp [h, Except.toOption]

theorem length_made_succ_of_ok {factory : Nat → Except Failure Client} {n : Nat} {client : Client}
    (h : factory n = .ok client) :
    (made factory (n + 1)).length = (made factory n).length + 1 := by
  rw [made_succ_of_ok h, List.length_append, List.length_singleton]

/-- No client is made twice. -/
def Distinct (factory : Nat → Except Failure Client) : Prop :=
  ∀ m n client, factory m = .ok client → factory n = .ok client → m = n

theorem nodup_made {factory : Nat → Except Failure Client} (h : Distinct factory) (asked : Nat) :
    (made factory asked).Nodup := by
  have hok : ∀ n client, client ∈ (factory n).toOption → factory n = .ok client := by
    intro n client hc
    cases hn : factory n with
    | error failure => simp [hn, Except.toOption] at hc
    | ok c =>
      have hsame : c = client := by simpa [hn, Except.toOption] using hc
      rw [hsame]
  apply List.nodup_range.filterMap
  intro m n client hm hn
  exact h m n client (hok m client hm) (hok n client hn)

end Pool

namespace Blocks

variable {factory : Nat → Except Failure Client} {b : Blocks Client}

/-! ## Runs -/

inductive Step where
  | enter (label : String)
  /-- A block is left at its end or by a failure, and the client goes back either way. -/
  | leave (label : String) (raised : Option Failure)

def Step.after (factory : Nat → Except Failure Client) (b : Blocks Client) : Step → Blocks Client
  | .enter label => (b.enter factory label).2
  | .leave label _ => b.leave label

/-- The blocks after steps, the first one first. -/
def after (factory : Nat → Except Failure Client) (b : Blocks Client) (steps : List Step) :
    Blocks Client :=
  steps.foldl (Step.after factory) b

theorem after_append (factory : Nat → Except Failure Client) (b : Blocks Client)
    (steps more : List Step) :
    b.after factory (steps ++ more) = (b.after factory steps).after factory more :=
  List.foldl_append

theorem after_concat (factory : Nat → Except Failure Client) (b : Blocks Client)
    (steps : List Step) (s : Step) :
    b.after factory (steps ++ [s]) = s.after factory (b.after factory steps) :=
  List.foldl_concat _ _ _ _

theorem enter_ok {client : Client} {p : Pool Client} (h : b.pool.take factory = (.ok client, p))
    (label : String) :
    b.enter factory label = (.ok client, ⟨p, (label, client) :: b.opened⟩) := by
  simp only [enter, h]

theorem enter_error {failure : Failure} {p : Pool Client}
    (h : b.pool.take factory = (.error failure, p)) (label : String) :
    b.enter factory label = (.error failure, { b with pool := p }) := by
  simp only [enter, h]

/-- Leaving gives back the client of a block and closes no other, or does nothing. -/
theorem leave_cases (label : String) (b : Blocks Client) :
    b.leave label = b ∨ ∃ others client, b.opened.Perm ((label, client) :: others) ∧
      b.leave label = ⟨b.pool.giveBack client, others⟩ := by
  unfold leave
  cases hfind : b.opened.find? fun o => o.1 == label with
  | none => exact Or.inl rfl
  | some o =>
    obtain ⟨name, client⟩ := o
    obtain ⟨hlabel, front, back, hopened, hfront⟩ := List.find?_eq_some_iff_append.1 hfind
    obtain rfl : name = label := eq_of_beq hlabel
    have hnot : ∀ o ∈ front, ¬(o.1 == name) = true := by
      intro o ho
      simpa using hfront o ho
    refine Or.inr ⟨front ++ back, client, ?_, ?_⟩
    · rw [hopened]
      exact List.perm_middle
    · have herase : ((name, client) :: back).eraseP (fun o => o.1 == name) = back :=
        List.eraseP_cons_of_pos hlabel
      simp only [hopened, List.eraseP_append_right _ hnot, herase]

/-! ## What every step keeps -/

/-- The clients that are out, the latest block's first. -/
def held (b : Blocks Client) : List Client := b.opened.map (·.2)

/-- The books of a pool of some size are in order. -/
structure Balanced (factory : Nat → Except Failure Client) (size : Nat) (b : Blocks Client) :
    Prop where
  size_eq : b.pool.size = size
  inUse_eq : b.pool.inUse = b.opened.length
  /-- What was made is out or idle, and stands there once. -/
  shared : (b.held ++ b.pool.idle).Perm (Pool.made factory b.pool.asked)
  made_le : (Pool.made factory b.pool.asked).length ≤ size

namespace Balanced

variable {size : Nat}

theorem ofPool {p : Pool Client} (hidle : p.idle = []) (hinUse : p.inUse = 0)
    (hasked : p.asked = 0) : Balanced factory p.size (Blocks.ofPool p) := by
  have hmade : Pool.made factory p.asked = [] := by
    rw [hasked]
    rfl
  refine ⟨rfl, hinUse, ?_, ?_⟩
  · show ([] ++ p.idle).Perm (Pool.made factory p.asked)
    rw [hidle, hmade]
    exact List.Perm.nil
  · show (Pool.made factory p.asked).length ≤ p.size
    rw [hmade]
    exact Nat.zero_le _

theorem length_made (h : Balanced factory size b) :
    (Pool.made factory b.pool.asked).length = b.opened.length + b.pool.idle.length := by
  have hlength := h.shared.length_eq
  rw [List.length_append, held, List.length_map] at hlength
  exact hlength.symm

theorem enter (h : Balanced factory size b) (label : String) :
    Balanced factory size (b.enter factory label).2 := by
  have hcount := h.length_made
  have hinUse := h.inUse_eq
  have hshared := h.shared
  have hsize := h.size_eq
  obtain ⟨answer, p, htake, htakes⟩ := Pool.exists_takes factory b.pool
  cases htakes with
  | @reused client rest hidle =>
    rw [enter_ok htake]
    rw [hidle] at hshared
    refine ⟨hsize, ?_, List.perm_middle.symm.trans hshared, h.made_le⟩
    show b.pool.inUse + 1 = b.opened.length + 1
    omega
  | @made client hidle hroom hmade =>
    rw [enter_ok htake]
    rw [hidle, List.append_nil] at hshared
    rw [hidle, List.length_nil] at hcount
    refine ⟨hsize, ?_, ?_, ?_⟩
    · show b.pool.inUse + 1 = b.opened.length + 1
      omega
    · show ((client :: b.held) ++ b.pool.idle).Perm (Pool.made factory (b.pool.asked + 1))
      rw [hidle, List.append_nil, Pool.made_succ_of_ok hmade]
      exact (hshared.cons client).trans (List.perm_append_singleton client _).symm
    · show (Pool.made factory (b.pool.asked + 1)).length ≤ size
      rw [Pool.length_made_succ_of_ok hmade]
      omega
  | @failed failure hidle hroom hfailed =>
    rw [enter_error htake]
    have hsame := Pool.made_succ_of_error hfailed
    refine ⟨hsize, hinUse, ?_, ?_⟩
    · show (b.held ++ b.pool.idle).Perm (Pool.made factory (b.pool.asked + 1))
      rw [hsame]
      exact hshared
    · show (Pool.made factory (b.pool.asked + 1)).length ≤ size
      rw [hsame]
      exact h.made_le
  | full hidle hfull =>
    rw [enter_error htake]
    exact h

theorem leave (h : Balanced factory size b) (label : String) :
    Balanced factory size (b.leave label) := by
  rcases leave_cases label b with hsame | ⟨others, client, hopened, hleave⟩
  · rw [hsame]
    exact h
  · rw [hleave]
    have hlength : b.opened.length = others.length + 1 := hopened.length_eq
    have hinUse := h.inUse_eq
    refine ⟨h.size_eq, ?_, ?_, h.made_le⟩
    · show b.pool.inUse - 1 = others.length
      omega
    · show (others.map (·.2) ++ client :: b.pool.idle).Perm (Pool.made factory b.pool.asked)
      have hheld : b.held.Perm (client :: others.map Prod.snd) := hopened.map Prod.snd
      have hmoved := List.perm_middle.trans (hheld.symm.append_right b.pool.idle)
      exact hmoved.trans h.shared

theorem step (h : Balanced factory size b) (s : Step) :
    Balanced factory size (s.after factory b) := by
  cases s with
  | enter label => exact h.enter label
  | leave label raised => exact h.leave label

theorem after (h : Balanced factory size b) (steps : List Step) :
    Balanced factory size (b.after factory steps) := by
  induction steps using List.reverseRecOn with
  | nil => exact h
  | append_singleton steps s ih =>
    rw [after_concat]
    exact ih.step s

/-! ## The most blocks that were ever open -/

/-- A client is made only while none is idle, so then all clients are out. -/
theorem made_step (h : Balanced factory size b) (s : Step) :
    (Pool.made factory (s.after factory b).pool.asked).length
        = (Pool.made factory b.pool.asked).length ∨
      (Pool.made factory (s.after factory b).pool.asked).length
          = (Pool.made factory b.pool.asked).length + 1 ∧
        (Pool.made factory (s.after factory b).pool.asked).length
          = (s.after factory b).opened.length := by
  cases s with
  | leave label raised =>
    left
    show (Pool.made factory (b.leave label).pool.asked).length = _
    rcases leave_cases label b with hsame | ⟨others, client, -, hleave⟩
    · rw [hsame]
    · rw [hleave]
      rfl
  | enter label =>
    show (Pool.made factory (b.enter factory label).2.pool.asked).length = _ ∨
      (Pool.made factory (b.enter factory label).2.pool.asked).length = _ ∧
        (Pool.made factory (b.enter factory label).2.pool.asked).length
          = (b.enter factory label).2.opened.length
    obtain ⟨answer, p, htake, htakes⟩ := Pool.exists_takes factory b.pool
    cases htakes with
    | reused hidle =>
      left
      rw [enter_ok htake]
    | @made client hidle hroom hmade =>
      right
      have hcount := h.length_made
      have hmore := Pool.length_made_succ_of_ok hmade
      rw [hidle, List.length_nil] at hcount
      rw [enter_ok htake]
      refine ⟨hmore, ?_⟩
      show (Pool.made factory (b.pool.asked + 1)).length = b.opened.length + 1
      omega
    | @failed failure hidle hroom hfailed =>
      left
      rw [enter_error htake]
      show (Pool.made factory (b.pool.asked + 1)).length = _
      rw [Pool.made_succ_of_error hfailed]
    | full hidle hfull =>
      left
      rw [enter_error htake]

/-- As many clients are made as blocks were ever open at once. -/
theorem greatest_opened (h : Balanced factory size b) (hopened : b.opened = [])
    (hmade : Pool.made factory b.pool.asked = []) (steps : List Step) :
    IsGreatest {n | ∃ earlier, earlier <+: steps ∧ (b.after factory earlier).opened.length = n}
      (Pool.made factory (b.after factory steps).pool.asked).length := by
  induction steps using List.reverseRecOn with
  | nil =>
    refine ⟨⟨[], List.prefix_refl [], ?_⟩, ?_⟩
    · show b.opened.length = (Pool.made factory b.pool.asked).length
      rw [hopened, hmade]
      rfl
    · rintro n ⟨earlier, hearlier, rfl⟩
      obtain rfl := List.prefix_nil.1 hearlier
      show b.opened.length ≤ _
      rw [hopened]
      exact Nat.zero_le _
  | append_singleton steps s ih =>
    obtain ⟨⟨most, hmost, hreached⟩, hbound⟩ := ih
    have hnow := ((h.after steps).step s).length_made
    have hstep := (h.after steps).made_step s
    rw [← after_concat] at hnow hstep
    have hkept : most <+: steps ++ [s] := hmost.trans (List.prefix_append _ _)
    constructor
    · rcases hstep with hsame | ⟨-, hall⟩
      · exact ⟨most, hkept, hreached.trans hsame.symm⟩
      · exact ⟨steps ++ [s], List.prefix_refl _, hall.symm⟩
    · rintro n ⟨earlier, hearlier, rfl⟩
      rcases List.prefix_concat_iff.1 hearlier with rfl | hbefore
      · omega
      · have hn := hbound ⟨earlier, hbefore, rfl⟩
        omega

/-! ## When entering fails -/

theorem enter_exhausted_iff (h : Balanced factory size b) (label : String) :
    (b.enter factory label).1 = .error (.poolExhausted size) ↔
      b.opened.length = size ∨
        b.pool.asks = true ∧ factory b.pool.asked = .error (.poolExhausted size) := by
  have hcount := h.length_made
  have hmade := h.made_le
  have hinUse := h.inUse_eq
  have hsize := h.size_eq
  obtain ⟨answer, p, htake, htakes⟩ := Pool.exists_takes factory b.pool
  cases htakes with
  | @reused client rest hidle =>
    have hsome : b.pool.idle.length = rest.length + 1 := by rw [hidle, List.length_cons]
    have hbusy : b.pool.asks = false := by simp [Pool.asks, hidle]
    have hopen : b.opened.length ≠ size := by omega
    rw [enter_ok htake]
    simp [hbusy, hopen]
  | @made client hidle hroom hclient =>
    have hopen : b.opened.length ≠ size := by omega
    rw [enter_ok htake]
    simp [hclient, hopen]
  | @failed failure hidle hroom hfailed =>
    have hasks : b.pool.asks = true := by simp [Pool.asks, hidle, hroom]
    have hopen : b.opened.length ≠ size := by omega
    rw [enter_error htake]
    simp [hfailed, hasks, hopen]
  | full hidle hfull =>
    have hopen : b.opened.length = size := by omega
    rw [enter_error htake, hsize]
    simp [hopen]

end Balanced

/-- Who could not enter has changed neither the blocks nor the clients. -/
theorem enter_error_keeps {label : String} {failure : Failure}
    (h : (b.enter factory label).1 = .error failure) :
    (b.enter factory label).2.opened = b.opened ∧
      (b.enter factory label).2.pool.inUse = b.pool.inUse ∧
      (b.enter factory label).2.pool.idle = b.pool.idle := by
  obtain ⟨answer, p, htake, htakes⟩ := Pool.exists_takes factory b.pool
  cases htakes with
  | reused hidle =>
    rw [enter_ok htake] at h
    cases h
  | made hidle hroom hmade =>
    rw [enter_ok htake] at h
    cases h
  | failed hidle hroom hfailed =>
    rw [enter_error htake]
    exact ⟨rfl, rfl, rfl⟩
  | full hidle hfull =>
    rw [enter_error htake]
    exact ⟨rfl, rfl, rfl⟩

/-- In a pool of any size from one on, and after blocks have been entered and left in any order,
the clients out and the idle ones are those that were made, each once, and they are as many as
blocks were ever open together.  Entering is refused exactly when as many blocks are open as the
pool is large, and an entry that fails changes no count. -/
theorem clients_conserved {factory : Nat → Except Failure Client}
    (hdistinct : Pool.Distinct factory) {size : Int} (hsize : 1 ≤ size) :
    ∃ p : Pool Client, Pool.ofSize size = .ok p ∧ (p.size : Int) = size ∧
      ∀ steps : List Step,
        let b := (ofPool p).after factory steps
        let made := (Pool.made factory b.pool.asked).length
        b.pool.inUse = b.opened.length ∧
        (b.held ++ b.pool.idle).Nodup ∧
        b.pool.inUse + b.pool.idle.length = made ∧
        IsGreatest {n | ∃ earlier, earlier <+: steps ∧
          ((ofPool p).after factory earlier).opened.length = n} made ∧
        made ≤ p.size ∧
        ∀ label,
          ((b.enter factory label).1 = .error (.poolExhausted p.size) ↔
            b.opened.length = p.size ∨
              b.pool.asks = true ∧ factory b.pool.asked = .error (.poolExhausted p.size)) ∧
          ∀ failure, (b.enter factory label).1 = .error failure →
            (b.enter factory label).2.opened = b.opened ∧
            (b.enter factory label).2.pool.inUse = b.pool.inUse ∧
            (b.enter factory label).2.pool.idle = b.pool.idle := by
  let p : Pool Client := ⟨size.toNat, by omega, [], 0, 0⟩
  have hp : Pool.ofSize size = .ok p := by
    rw [Pool.ofSize, dif_pos hsize]
  have hcast : (p.size : Int) = size := Int.toNat_of_nonneg (by omega)
  refine ⟨p, hp, hcast, fun steps => ?_⟩
  have hfresh : Balanced factory p.size (ofPool p) := Balanced.ofPool rfl rfl rfl
  have hb := hfresh.after steps
  have hinUse := hb.inUse_eq
  have hcount := hb.length_made
  refine ⟨hinUse, ?_, ?_, hfresh.greatest_opened rfl rfl steps, hb.made_le, fun label =>
    ⟨hb.enter_exhausted_iff label, fun failure => enter_error_keeps⟩⟩
  · exact hb.shared.nodup_iff.2 (Pool.nodup_made hdistinct _)
  · rw [hinUse]
    exact hcount.symm

/-! ## Two clients for four blocks -/

/-- The second attempt to make a client fails. -/
def flaky (n : Nat) : Except Failure Nat :=
  if n = 1 then .error (.outage ⟨.connection, none⟩) else .ok n

/-- Blocks that are not nested.  The first attempt to enter `b` fails, and so does entering `c`
while two blocks are open. -/
def crossing : List Step :=
  [.enter "a", .enter "b", .enter "b", .enter "c", .leave "a" (some (.outage ⟨.value, none⟩)),
    .enter "d"]

theorem distinct_flaky : Pool.Distinct flaky := by
  intro m n client hm hn
  unfold flaky at hm hn
  split at hm
  · cases hm
  · split at hn
    · cases hn
    · cases hm
      cases hn
      rfl

theorem clients_conserved_of_two :
    Pool.Distinct flaky ∧ (1 : Int) ≤ 2 ∧
      ∃ p : Pool Nat, Pool.ofSize 2 = .ok p ∧
        ((ofPool p).after flaky crossing).opened = [("d", 0), ("b", 2)] ∧
        ((ofPool p).after flaky crossing).pool.inUse = 2 ∧
        IsGreatest {n | ∃ earlier, earlier <+: crossing ∧
          ((ofPool p).after flaky earlier).opened.length = n} 2 ∧
        (((ofPool p).after flaky crossing).enter flaky "e").1 = .error (.poolExhausted 2) := by
  obtain ⟨p, hp, -, hrun⟩ := clients_conserved distinct_flaky (by decide : (1 : Int) ≤ 2)
  obtain rfl : ⟨2, by decide, [], 0, 0⟩ = p := Except.ok.inj hp
  obtain ⟨hinUse, -, -, hgreatest, -, henter⟩ := hrun crossing
  exact ⟨distinct_flaky, by decide, _, hp, rfl, hinUse, hgreatest,
    (henter "e").1.2 (Or.inl rfl)⟩

end Blocks
end CatalogScout
