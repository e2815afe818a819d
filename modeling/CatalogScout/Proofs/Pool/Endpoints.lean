import CatalogScout.Pool.Cache
import CatalogScout.Proofs.Text.Trim
import Mathlib.Data.List.DropRight
import Mathlib.Data.List.TakeWhile

/-!
Pools by endpoint.

A call for a pool finds the one of its endpoint, or makes it at the end of the cache, or is refused
for its size and changes nothing.  What is done to one pool leaves the endpoints at their places.
The host of a client is that of the address or, without one, that of the profile.
-/

namespace CatalogScout

open Text

/-! ## Hosts -/

namespace Connection

theorem dropTrailing_dropTrailing (c : Char) (s : List Char) :
    dropTrailing c (dropTrailing c s) = dropTrailing c s := by
  rw [dropTrailing, dropTrailing, List.reverse_reverse, List.dropWhile_idempotent]

/-- A host without a query and without slashes at its end stays as it is. -/
theorem sanitizeHost_sanitizeHost (host : String) :
    sanitizeHost (sanitizeHost host) = sanitizeHost host := by
  have hmark : '?' ∉ dropTrailing '/' (upTo '?' host.toList) := by
    intro hmem
    rw [dropTrailing, List.mem_reverse] at hmem
    have hfront := List.mem_reverse.1 ((List.dropWhile_sublist _).subset hmem)
    have hne := List.mem_takeWhile_imp hfront
    simp at hne
  rw [sanitizeHost, sanitizeHost, String.toList_ofList, upTo_of_not_mem hmark,
    dropTrailing_dropTrailing]

/-- A login leads to the host that it is given, if it is given one. -/
def KeepsHost (login : Login) : Prop :=
  ∀ profile host answer, login profile (some host) = .ok answer → answer = some host

/-- The host of a client for a profile and an address: that of the address or, without an address,
the one that the profile itself leads to. -/
def HostOf (login : Login) (profile uri host : Option String) : Prop :=
  match given? uri with
  | some address => host = some (sanitizeHost address)
  | none => ∃ own, login profile none = .ok own ∧ host = own.map sanitizeHost

theorem connect_host {login : Login} (hkeeps : KeepsHost login) {profile uri host : Option String}
    (hprofile : given? profile = profile) (h : (connect login profile uri).host = .ok host) :
    HostOf login profile uri host := by
  unfold HostOf
  cases huri : given? uri with
  | none =>
    simp only [connect, hprofile, huri, Option.map_none] at h
    cases hown : login profile none with
    | error o =>
      rw [hown] at h
      cases h
    | ok own =>
      rw [hown] at h
      exact ⟨own, rfl, (Except.ok.inj h).symm⟩
  | some address =>
    simp only [connect, hprofile, huri, Option.map_some] at h
    cases hgiven : login profile (some (sanitizeHost address)) with
    | error o =>
      rw [hgiven] at h
      cases h
    | ok answer =>
      rw [hgiven, hkeeps _ _ _ hgiven] at h
      have hhost := Except.ok.inj h
      rw [Option.map_some, sanitizeHost_sanitizeHost] at hhost
      exact hhost.symm

end Connection

/-! ## Sizes -/

namespace Job

/-- The size of a pool is written down, but not as a whole number from one on. -/
def BadPoolSize (job : Settings) : Prop :=
  ∃ text, job.get? poolSizeKey = some text ∧ isBlankString text = false ∧
    ∀ n, readInteger? (trim text.toList) = some n → n < 1

/-- Of the three things that the text of a size can be, only one is no whole number at all. -/
theorem size_cases (job : Settings) :
    (∃ n, job.integer poolSizeKey defaultPoolSize = .ok n ∧ (n < 1 ↔ BadPoolSize job)) ∨
      ∃ failure, job.integer poolSizeKey defaultPoolSize = .error failure ∧ BadPoolSize job := by
  have hdefault : ¬defaultPoolSize < 1 := by decide
  unfold Settings.integer BadPoolSize
  cases htext : job.get? poolSizeKey with
  | none =>
    left
    refine ⟨_, rfl, ?_⟩
    simp [hdefault]
  | some text =>
    cases hblank : isBlankString text with
    | true =>
      left
      refine ⟨defaultPoolSize, by simp [hblank], ?_⟩
      simp [hdefault, hblank]
    | false =>
      cases hread : readInteger? (trim text.toList) with
      | none =>
        right
        refine ⟨.notAnInteger poolSizeKey text, by simp [hblank, hread], ?_⟩
        simp [hblank, hread]
      | some n =>
        left
        refine ⟨n, by simp [hblank, hread], ?_⟩
        simp [hblank, hread]

/-- A pool is made, and lends nothing yet, or its size is bad. -/
theorem pool_cases (job : Settings) :
    (∃ p, pool job = .ok p ∧ p.idle = [] ∧ p.inUse = 0 ∧ ¬BadPoolSize job) ∨
      ∃ failure, pool job = .error failure ∧ BadPoolSize job := by
  rcases size_cases job with ⟨n, hn, hsmall⟩ | ⟨failure, hfailure, hbad⟩
  · have hpool : pool job = Pool.ofSize n := by
      rw [pool, hn]
      rfl
    rw [hpool, ← hsmall]
    by_cases hone : 1 ≤ n
    · left
      exact ⟨_, dif_pos hone, rfl, rfl, by omega⟩
    · right
      exact ⟨_, dif_neg hone, by omega⟩
  · right
    refine ⟨failure, ?_, hbad⟩
    rw [pool, hfailure]
    rfl

end Job

/-- A client is made of the parts of its endpoint and of the host that connecting leads to. -/
theorem Endpoint.client_ok {login : Login} {e : Endpoint} {client : Connection}
    (h : e.client login = .ok client) :
    ∃ host, (Connection.connect login e.profile e.uri).host = .ok host ∧
      client = ⟨e.profile, host, e.catalog⟩ := by
  unfold Endpoint.client at h
  cases hhost : (Connection.connect login e.profile e.uri).host with
  | error failure =>
    rw [hhost] at h
    cases h
  | ok host =>
    rw [hhost] at h
    exact ⟨host, rfl, (Except.ok.inj h).symm⟩

/-! ## Places -/

namespace PoolCache

/-- The endpoints of the pools, by place. -/
def endpoints (c : PoolCache) : List Endpoint := c.pools.map (·.1)

/-! ## Calls -/

/-- All that a call for a pool can come to, and the cache after it. -/
inductive Gets (c : PoolCache) (job : Settings) (uri : Option String) :
    Except Failure Nat → PoolCache → Prop where
  | known {place : Nat} (h : c.endpoints[place]? = some (.ofJob job uri)) :
      Gets c job uri (.ok place) c
  | made {pool : Pool Connection} (hnew : Endpoint.ofJob job uri ∉ c.endpoints)
      (hsize : ¬Job.BadPoolSize job) (hidle : pool.idle = []) (hinUse : pool.inUse = 0) :
      Gets c job uri (.ok c.pools.length) ⟨c.pools ++ [(.ofJob job uri, pool)]⟩
  | refused {failure : Failure} (hnew : Endpoint.ofJob job uri ∉ c.endpoints)
      (hsize : Job.BadPoolSize job) : Gets c job uri (.error failure) c

theorem getElem?_endpoints (c : PoolCache) (place : Nat) :
    c.endpoints[place]? = (c.pools[place]?).map (·.1) :=
  List.getElem?_map

theorem endpoints_of_find? {c : PoolCache} {e : Endpoint} {place : Nat}
    (h : c.find? e = some place) : c.endpoints[place]? = some e := by
  obtain ⟨hlt, heq, -⟩ := List.findIdx?_eq_some_iff_getElem.1 h
  rw [getElem?_endpoints, List.getElem?_eq_getElem hlt, Option.map_some, eq_of_beq heq]

theorem not_mem_of_find? {c : PoolCache} {e : Endpoint} (h : c.find? e = none) :
    e ∉ c.endpoints := by
  intro hmem
  obtain ⟨p, hp, rfl⟩ := List.mem_map.1 hmem
  have hne := List.findIdx?_eq_none_iff.1 h p hp
  simp at hne

theorem gets (c : PoolCache) (job : Settings) (uri : Option String) :
    Gets c job uri (c.get job uri).1 (c.get job uri).2.2 := by
  cases hfind : c.find? (Endpoint.ofJob job uri) with
  | some place =>
    have hget : c.get job uri = (.ok place, [], c) := by simp only [get, hfind]
    rw [hget]
    exact .known (endpoints_of_find? hfind)
  | none =>
    have hnew := not_mem_of_find? hfind
    rcases Job.pool_cases job with ⟨pool, hpool, hidle, hinUse, hsize⟩ | ⟨failure, hpool, hsize⟩
    · simp only [get, hfind, hpool]
      exact .made hnew hsize hidle hinUse
    · simp only [get, hfind, hpool]
      exact .refused hnew hsize

/-- A call adds the endpoint that it asks for, if it adds one. -/
theorem endpoints_get (c : PoolCache) (job : Settings) (uri : Option String) :
    (c.get job uri).2.2.endpoints = c.endpoints ∨
      Endpoint.ofJob job uri ∉ c.endpoints ∧ ¬Job.BadPoolSize job ∧
        (c.get job uri).2.2.endpoints = c.endpoints ++ [.ofJob job uri] := by
  have hgets := c.gets job uri
  generalize (c.get job uri).1 = answer at hgets
  generalize (c.get job uri).2.2 = c' at hgets ⊢
  cases hgets with
  | known h => exact Or.inl rfl
  | refused hnew hsize => exact Or.inl rfl
  | made hnew hsize hidle hinUse => exact Or.inr ⟨hnew, hsize, List.map_append⟩

/-- A call that succeeds answers with the place of its endpoint. -/
theorem endpoint_of_get {c : PoolCache} {job : Settings} {uri : Option String} {place : Nat}
    (h : (c.get job uri).1 = .ok place) :
    (c.get job uri).2.2.endpoints[place]? = some (.ofJob job uri) := by
  have hgets := c.gets job uri
  rw [h] at hgets
  generalize (c.get job uri).2.2 = c' at hgets ⊢
  cases hgets with
  | known h => exact h
  | made hnew hsize hidle hinUse => simp [endpoints]

/-- A call is refused exactly for a new endpoint and a bad size. -/
theorem get_refused_iff (c : PoolCache) (job : Settings) (uri : Option String) :
    (∃ failure, (c.get job uri).1 = .error failure) ↔
      Endpoint.ofJob job uri ∉ c.endpoints ∧ Job.BadPoolSize job := by
  have hgets := c.gets job uri
  generalize (c.get job uri).1 = answer at hgets ⊢
  generalize (c.get job uri).2.2 = c' at hgets
  cases hgets with
  | known h => simp [List.mem_of_getElem? h]
  | made hnew hsize hidle hinUse => simp [hsize]
  | @refused failure hnew hsize => simp [hnew, hsize]

theorem get_refused_keeps {c : PoolCache} {job : Settings} {uri : Option String}
    {failure : Failure} (h : (c.get job uri).1 = .error failure) : (c.get job uri).2.2 = c := by
  have hgets := c.gets job uri
  rw [h] at hgets
  generalize (c.get job uri).2.2 = c' at hgets ⊢
  cases hgets with
  | refused hnew hsize => rfl

/-- What holds of every pool, and of a new pool at the end, holds after a call. -/
theorem forall_get {c : PoolCache} {job : Settings} {uri : Option String}
    {p : Nat → Endpoint → Pool Connection → Prop}
    (hold : ∀ (place : Nat) (e : Endpoint) (pool : Pool Connection),
      c.pools[place]? = some (e, pool) → p place e pool)
    (hnew : ∀ pool : Pool Connection, pool.idle = [] → pool.inUse = 0 →
      p c.pools.length (.ofJob job uri) pool)
    (place : Nat) (e : Endpoint) (pool : Pool Connection)
    (h : (c.get job uri).2.2.pools[place]? = some (e, pool)) : p place e pool := by
  have hgets := c.gets job uri
  generalize (c.get job uri).1 = answer at hgets
  generalize (c.get job uri).2.2 = c' at hgets h
  cases hgets with
  | known hknown => exact hold place e pool h
  | refused hrefused hsize => exact hold place e pool h
  | @made made hmade hsize hidle hinUse =>
    by_cases hlt : place < c.pools.length
    · rw [List.getElem?_append_left hlt] at h
      exact hold place e pool h
    · obtain rfl : place = c.pools.length := by
        have hle := (List.getElem?_eq_some_iff.1 h).1
        rw [List.length_append, List.length_singleton] at hle
        omega
      rw [List.getElem?_concat_length] at h
      obtain ⟨rfl, rfl⟩ := Prod.mk.inj (Option.some.inj h)
      exact hnew made hidle hinUse

/-! ## Changes of one pool -/

theorem getElem?_modify (c : PoolCache) (place other : Nat)
    (f : Pool Connection → Pool Connection) :
    (c.modify place f).pools[other]?
      = (c.pools[other]?).map fun p => if place = other then (p.1, f p.2) else p := by
  rw [modify, List.getElem?_modify]
  rfl

/-- What holds of the other pools, and of the one that is changed, holds after the change. -/
theorem forall_modify {c : PoolCache} {place : Nat} {f : Pool Connection → Pool Connection}
    {p : Nat → Endpoint → Pool Connection → Prop}
    (hothers : ∀ (other : Nat) (e : Endpoint) (pool : Pool Connection), place ≠ other →
      c.pools[other]? = some (e, pool) → p other e pool)
    (hplace : ∀ (e : Endpoint) (pool : Pool Connection), c.pools[place]? = some (e, pool) →
      p place e (f pool))
    (other : Nat) (e : Endpoint) (pool : Pool Connection)
    (h : (c.modify place f).pools[other]? = some (e, pool)) : p other e pool := by
  rw [getElem?_modify] at h
  obtain ⟨⟨e', before⟩, hbefore, heq⟩ := Option.map_eq_some_iff.1 h
  by_cases hsame : place = other
  · subst hsame
    rw [if_pos rfl] at heq
    obtain ⟨rfl, rfl⟩ := Prod.mk.inj heq
    exact hplace e' before hbefore
  · rw [if_neg hsame] at heq
    obtain ⟨rfl, rfl⟩ := Prod.mk.inj heq
    exact hothers other e' before hsame hbefore

/-- The places of the endpoints stay. -/
theorem endpoints_modify (c : PoolCache) (place : Nat) (f : Pool Connection → Pool Connection) :
    (c.modify place f).endpoints = c.endpoints := by
  apply List.ext_getElem?
  intro other
  rw [getElem?_endpoints, getElem?_endpoints, getElem?_modify, Option.map_map]
  congr 1
  funext p
  show (if place = other then (p.1, f p.2) else p).1 = p.1
  by_cases h : place = other
  · rw [if_pos h]
  · rw [if_neg h]

end PoolCache

end CatalogScout
