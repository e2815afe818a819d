import CatalogScout.Proofs.Lists
import CatalogScout.Proofs.Pool.Sharing
import Mathlib.Algebra.GroupWithZero.Nat
import Mathlib.Data.List.Perm.Basic

/-!
One place under several addresses.

A client is configured with its address without a query and without slashes at the end, and with
none if the address is empty.  Pools are told apart by the address as it is written.  So each way to
write the address of a place has a pool of its own, and the size of a pool bounds the clients that
are out at a place only as long as all who work there write its address alike.
-/

namespace CatalogScout

namespace Endpoint

/-- What a client of the endpoint is configured with. -/
def target (e : Endpoint) : Connection :=
  ⟨e.profile, (Connection.given? e.uri).map Connection.sanitizeHost, e.catalog⟩

/-- Nothing else of the endpoint goes into its clients. -/
theorem client_eq_of_target_eq {e e' : Endpoint} (h : e.target = e'.target) (login : Login) :
    e.client login = e'.client login := by
  obtain ⟨hprofile, hhost, hcatalog⟩ := Connection.mk.inj h
  simp only [client, Connection.connect, hprofile, hhost, hcatalog]

/-- Endpoints of one target are the same exactly if their addresses are written alike. -/
theorem eq_iff_of_target_eq {e e' : Endpoint} (h : e.target = e'.target) :
    e = e' ↔ e.uri = e'.uri := by
  obtain ⟨hprofile, -, hcatalog⟩ := Connection.mk.inj h
  cases e
  cases e'
  simp_all

end Endpoint

namespace SharedPools

/-! ## Clients that are out, by pool -/

/-- How many clients are out of the pool at a place. -/
def outOf (s : SharedPools) (place : Nat) : Nat := s.opened.countP fun o => o.1 == place

/-- Every pool counts its own clients, and has no more of them than it is meant for. -/
structure Counted (s : SharedPools) : Prop where
  opened_lt : ∀ o ∈ s.opened, o.1 < s.cache.pools.length
  counts : ∀ (place : Nat) (e : Endpoint) (pool : Pool Connection),
    s.cache.pools[place]? = some (e, pool) → s.outOf place = pool.inUse ∧ pool.Fits

namespace Counted

variable {s : SharedPools}

theorem fresh : Counted SharedPools.fresh := by
  refine ⟨nofun, ?_⟩
  intro place e pool h
  cases h

theorem get (h : Counted s) (job : Settings) (uri : Option String) :
    Counted (Step.after s (.get job uri)) := by
  refine ⟨?_, ?_⟩
  · intro o ho
    have hlt := h.opened_lt o ho
    have hle := (endpoints_grow s [.get job uri]).length_le
    rw [PoolCache.endpoints, PoolCache.endpoints, List.length_map, List.length_map] at hle
    exact Nat.lt_of_lt_of_le hlt hle
  · apply PoolCache.forall_get h.counts
    intro pool hidle hinUse
    refine ⟨?_, ?_⟩
    · -- No block of the new pool is open yet.
      rw [hinUse]
      apply List.countP_eq_zero.2
      intro o ho heq
      have hlt := h.opened_lt o ho
      rw [eq_of_beq heq] at hlt
      omega
    · show pool.inUse + pool.idle.length ≤ pool.size
      rw [hinUse, hidle]
      exact Nat.zero_le _

/-- A pool is exchanged for one that counts the blocks as they are afterwards. -/
theorem exchange (h : Counted s) {place : Nat} {f : Pool Connection → Pool Connection}
    {opened : List (Nat × Connection)} (hlt : ∀ o ∈ opened, o.1 < s.cache.pools.length)
    (hothers : ∀ other, place ≠ other →
      (opened.countP fun o => o.1 == other) = s.outOf other)
    (hf : ∀ (e : Endpoint) (pool : Pool Connection), s.cache.pools[place]? = some (e, pool) →
      (opened.countP fun o => o.1 == place) = (f pool).inUse ∧ (f pool).Fits) :
    Counted ⟨s.cache.modify place f, opened⟩ := by
  refine ⟨?_, ?_⟩
  · intro o ho
    show o.1 < (s.cache.pools.modify place _).length
    rw [List.length_modify]
    exact hlt o ho
  · refine PoolCache.forall_modify
      (p := fun other _ pool => (opened.countP fun o => o.1 == other) = pool.inUse ∧ pool.Fits)
      ?_ hf
    intro other e pool hother hpool
    have hcounts := h.counts other e pool hpool
    exact ⟨(hothers other hother).trans hcounts.1, hcounts.2⟩

theorem enter (h : Counted s) (login : Login) (place : Nat) : Counted (s.enter login place) := by
  have henters := s.enters login place
  generalize s.enter login place = s' at henters
  cases henters with
  | nowhere hnone => exact h
  | @lent e pool pool' client hpool htakes =>
    obtain ⟨hcount, hfits⟩ := h.counts place e pool hpool
    apply h.exchange
    · intro o ho
      rcases List.mem_cons.1 ho with rfl | hold
      · exact (List.getElem?_eq_some_iff.1 hpool).1
      · exact h.opened_lt o hold
    · intro other hother
      rw [List.countP_cons_of_neg (by simpa using hother)]
      rfl
    · intro e' before hbefore
      refine ⟨?_, htakes.fits hfits⟩
      rw [List.countP_cons_of_pos (by simp), htakes.inUse_ok]
      exact congrArg (· + 1) hcount
  | @failed e pool pool' failure hpool htakes =>
    obtain ⟨hcount, hfits⟩ := h.counts place e pool hpool
    apply h.exchange h.opened_lt (fun _ _ => rfl)
    intro e' before hbefore
    exact ⟨hcount.trans htakes.inUse_error.symm, htakes.fits hfits⟩

theorem leave (h : Counted s) (block : Nat) : Counted (s.leave block) := by
  unfold SharedPools.leave
  cases hblock : s.opened[block]? with
  | none => exact h
  | some o =>
    obtain ⟨place, client⟩ := o
    obtain ⟨hlt, heq⟩ := List.getElem?_eq_some_iff.1 hblock
    -- The blocks are those that stay open and the one that is left.
    have hsplit : ∀ other, s.outOf other
        = (s.opened.eraseIdx block).countP (fun o => o.1 == other)
          + if place = other then 1 else 0 := by
      intro other
      have hperm := (List.getElem_cons_eraseIdx_perm hlt).countP_eq fun o => o.1 == other
      rw [heq, List.countP_cons] at hperm
      simpa [outOf] using hperm.symm
    apply h.exchange
    · intro o ho
      exact h.opened_lt o (List.mem_of_mem_eraseIdx ho)
    · intro other hother
      rw [hsplit other, if_neg hother]
      rfl
    · intro e pool hpool
      obtain ⟨hcount, hfits⟩ := h.counts place e pool hpool
      have hown := hsplit place
      rw [if_pos rfl] at hown
      unfold Pool.Fits at hfits
      refine ⟨?_, ?_⟩
      · show _ = pool.inUse - 1
        omega
      · show pool.inUse - 1 + (pool.idle.length + 1) ≤ pool.size
        omega

theorem step (h : Counted s) (step : Step) : Counted (step.after s) := by
  cases step with
  | get job uri => exact h.get job uri
  | enter login place => exact h.enter login place
  | leave block => exact h.leave block

theorem after (h : Counted s) (steps : List Step) : Counted (s.after steps) :=
  List.foldlRecOn steps Step.after h fun _ hcounted step _ => hcounted.step step

end Counted

/-! ## Clients that are out, by target -/

/-- How many clients are out at a target. -/
def outAt (s : SharedPools) (target : Connection) : Nat :=
  s.opened.countP fun o => (s.cache.pools[o.1]?).any fun p => p.1.target == target

/-- The sizes of the pools of a target. -/
def sizesAt (s : SharedPools) (target : Connection) : List Nat :=
  (s.cache.pools.filter fun p => p.1.target == target).map (·.2.size)

namespace Counted

variable {s : SharedPools}

theorem outOf_le (h : Counted s) {place : Nat} {e : Endpoint} {pool : Pool Connection}
    (hpool : s.cache.pools[place]? = some (e, pool)) : s.outOf place ≤ pool.size := by
  obtain ⟨hcount, hfits⟩ := h.counts place e pool hpool
  unfold Pool.Fits at hfits
  omega

/-- Together the pools of a target lend no more clients than they are meant for. -/
theorem outAt_le (h : Counted s) (target : Connection) :
    s.outAt target ≤ (s.sizesAt target).sum :=
  List.countP_any_le_sum (fun _ _ hpool => h.outOf_le hpool) _

/-- If a target has one pool only, it lends all the clients that are out there. -/
theorem outAt_le_size (h : Counted s) {place : Nat} {e : Endpoint} {pool : Pool Connection}
    (hpool : s.cache.pools[place]? = some (e, pool))
    (honly : ∀ (other : Nat) (e' : Endpoint) (pool' : Pool Connection),
      s.cache.pools[other]? = some (e', pool') → e'.target = e.target → other = place) :
    s.outAt e.target ≤ pool.size := by
  refine Nat.le_trans ?_ (h.outOf_le hpool)
  apply List.countP_mono_left
  intro o ho hat
  obtain ⟨⟨e', pool'⟩, hpool', htarget⟩ := (Option.any_eq_true _ _).1 hat
  exact beq_iff_eq.2 (honly o.1 e' pool' hpool' (eq_of_beq htarget))

end Counted

/-- All who call for a pool of the target write its address alike. -/
def WrittenAlike (steps : List Step) (target : Connection) : Prop :=
  ∀ e e', Called steps e → Called steps e' → e.target = target → e'.target = target →
    e.uri = e'.uri

/-- Where the address of a target is written in one way, the target has one pool. -/
theorem WrittenAlike.one_place {steps : List Step} {e : Endpoint} {place : Nat}
    (h : WrittenAlike steps e.target)
    (hplace : (fresh.after steps).cache.endpoints[place]? = some e) {other : Nat} {e' : Endpoint}
    (hother : (fresh.after steps).cache.endpoints[other]? = some e')
    (htarget : e'.target = e.target) : other = place := by
  have hcalled := (mem_endpoints_iff steps e).1 (List.mem_of_getElem? hplace)
  have hcalled' := (mem_endpoints_iff steps e').1 (List.mem_of_getElem? hother)
  have hsame := (Endpoint.eq_iff_of_target_eq htarget).2 (h e' e hcalled' hcalled htarget rfl)
  apply (List.getElem?_inj (List.getElem?_eq_some_iff.1 hother).1 (nodup_endpoints steps)).1
  rw [hother, hplace, hsame]

/-- Through every history: endpoints of one target make the same clients; two calls for one target
come to the same pool exactly if they write its address alike; the clients that are out at a target
are no more than its pools are meant for together; and if the calls of the history write its address
alike, no more than its one pool is meant for. -/
theorem limit_by_spelling (before : List Step) (job : Settings) (uri : Option String) (place : Nat)
    (h : answer before job uri = .ok place) (between : List Step) :
    (∀ e e' : Endpoint, e.target = e'.target → ∀ login, e.client login = e'.client login) ∧
    (∀ job' uri' place', answer (before ++ .get job uri :: between) job' uri' = .ok place' →
      (Endpoint.ofJob job uri).target = (Endpoint.ofJob job' uri').target →
      (place = place' ↔ uri = uri')) ∧
    (∀ target, (fresh.after (before ++ .get job uri :: between)).outAt target
      ≤ ((fresh.after (before ++ .get job uri :: between)).sizesAt target).sum) ∧
    (WrittenAlike (before ++ .get job uri :: between) (Endpoint.ofJob job uri).target →
      ∃ pool, (fresh.after (before ++ .get job uri :: between)).cache.pool? place = some pool ∧
        (fresh.after (before ++ .get job uri :: between)).outAt (Endpoint.ofJob job uri).target
          ≤ pool.size) := by
  have hcounted := Counted.fresh.after (before ++ .get job uri :: between)
  refine ⟨fun e e' => Endpoint.client_eq_of_target_eq, ?_, hcounted.outAt_le, ?_⟩
  · intro job' uri' place' h' htarget
    rw [same_place_iff h h', Endpoint.eq_iff_of_target_eq htarget]
    exact Iff.rfl
  · intro halike
    have hplace := endpoint_of_answer h between
    have hpool := hplace
    rw [PoolCache.getElem?_endpoints] at hpool
    obtain ⟨⟨e, pool⟩, hpool, he⟩ := Option.map_eq_some_iff.1 hpool
    obtain rfl : e = .ofJob job uri := he
    refine ⟨pool, ?_, ?_⟩
    · rw [PoolCache.pool?, hpool]
      rfl
    · apply hcounted.outAt_le_size hpool
      intro other e' pool' hpool' htarget
      apply halike.one_place hplace ?_ htarget
      rw [PoolCache.getElem?_endpoints, hpool']
      rfl

def oneClient : Settings := .ofList [(Job.poolSizeKey, "1")]

/-- The pool of an address, which is asked for twice, and two blocks of it; the second has to do
without a client. -/
def oneSpelling : List Step :=
  [.get oneClient (some "https://a"), .enter namesakeLogin 0, .enter namesakeLogin 0]

theorem limit_by_spelling_of_one :
    answer [] oneClient (some "https://a") = .ok 0 ∧
      WrittenAlike ([] ++ .get oneClient (some "https://a") :: oneSpelling)
        (Endpoint.ofJob oneClient (some "https://a")).target ∧
      ∃ pool, (fresh.after ([] ++ .get oneClient (some "https://a") :: oneSpelling)).cache.pool? 0
          = some pool ∧
        (fresh.after ([] ++ .get oneClient (some "https://a") :: oneSpelling)).outAt
          (Endpoint.ofJob oneClient (some "https://a")).target ≤ pool.size := by
  have halike : WrittenAlike ([] ++ .get oneClient (some "https://a") :: oneSpelling)
      (Endpoint.ofJob oneClient (some "https://a")).target := by
    have huri : ∀ e, Called ([] ++ .get oneClient (some "https://a") :: oneSpelling) e →
        e.uri = some "https://a" := by
      intro e hcalled
      obtain ⟨job, uri, hmem, rfl, -⟩ := hcalled
      simp only [oneSpelling, List.nil_append, List.mem_cons, Step.get.injEq, reduceCtorEq,
        List.not_mem_nil, or_false, or_self] at hmem
      exact hmem.2
    intro e e' he he' _ _
    exact (huri e he).trans (huri e' he').symm
  exact ⟨rfl, halike, (limit_by_spelling [] oneClient (some "https://a") 0 rfl oneSpelling).2.2.2
    halike⟩

/-- The address of one place in two ways, and a block of either pool. -/
def twoSpellings : List Step :=
  [.get oneClient (some "https://a"), .get oneClient (some "https://a/"), .enter namesakeLogin 0,
    .enter namesakeLogin 1]

/-- Two calls for one target come to two pools of one client each, and both clients, which are the
same, are out at once. -/
theorem slash_splits_pool :
    (Endpoint.ofJob oneClient (some "https://a")).target
        = (Endpoint.ofJob oneClient (some "https://a/")).target ∧
      answer [] oneClient (some "https://a") = .ok 0 ∧
      answer [.get oneClient (some "https://a")] oneClient (some "https://a/") = .ok 1 ∧
      (fresh.after twoSpellings).opened = [(1, ⟨none, some "https://a", "hive_metastore"⟩),
        (0, ⟨none, some "https://a", "hive_metastore"⟩)] ∧
      (fresh.after twoSpellings).outAt (Endpoint.ofJob oneClient (some "https://a")).target = 2 ∧
      (fresh.after twoSpellings).sizesAt (Endpoint.ofJob oneClient (some "https://a")).target
        = [1, 1] :=
  ⟨rfl, rfl, rfl, rfl, rfl, rfl⟩

end SharedPools
end CatalogScout
