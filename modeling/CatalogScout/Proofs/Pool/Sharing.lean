import CatalogScout.Proofs.Pool.Conservation
import CatalogScout.Proofs.Pool.Endpoints

/-!
Histories of shared pools.

A cache of pools only grows at its end, and only by endpoints that it does not have.  So the place
of a pool stands for its endpoint through every history of calls for pools and of blocks that are
entered and left, and a pool lends nothing but clients of its own endpoint, whenever they were made.
-/

namespace CatalogScout

/-- Pools that are shared, and the open blocks, each with the place of its pool and its client. -/
structure SharedPools where
  cache : PoolCache
  opened : List (Nat × Connection)

namespace SharedPools

def fresh : SharedPools := ⟨.empty, []⟩

/-- Enter a block of the pool at a place, under the login of that moment.  Nothing happens if there
is no pool or no client to be had. -/
def enter (login : Login) (place : Nat) (s : SharedPools) : SharedPools :=
  match s.cache.take? login place with
  | none => s
  | some taken =>
    match taken.client with
    | .ok client => ⟨taken.cache, (place, client) :: s.opened⟩
    | .error _ => { s with cache := taken.cache }

/-- Leave one of the open blocks, in whatever order. -/
def leave (block : Nat) (s : SharedPools) : SharedPools :=
  match s.opened[block]? with
  | none => s
  | some (place, client) => ⟨s.cache.giveBack place client, s.opened.eraseIdx block⟩

inductive Step where
  | get (job : Settings) (uri : Option String)
  | enter (login : Login) (place : Nat)
  | leave (block : Nat)

def Step.after (s : SharedPools) : Step → SharedPools
  | .get job uri => { s with cache := (s.cache.get job uri).2.2 }
  | .enter login place => s.enter login place
  | .leave block => s.leave block

/-- The pools after steps, the first one first. -/
def after (s : SharedPools) (steps : List Step) : SharedPools := steps.foldl Step.after s

theorem after_append (s : SharedPools) (steps more : List Step) :
    s.after (steps ++ more) = (s.after steps).after more :=
  List.foldl_append

theorem after_concat (s : SharedPools) (steps : List Step) (step : Step) :
    s.after (steps ++ [step]) = step.after (s.after steps) :=
  List.foldl_concat _ _ _ _

/-- All that entering a block can come to. -/
inductive Enters (s : SharedPools) (login : Login) (place : Nat) : SharedPools → Prop where
  | nowhere (h : s.cache.pools[place]? = none) : Enters s login place s
  | lent {e : Endpoint} {pool pool' : Pool Connection} {client : Connection}
      (h : s.cache.pools[place]? = some (e, pool))
      (htakes : Pool.Takes (fun _ => e.client login) pool (.ok client) pool') :
      Enters s login place ⟨s.cache.modify place fun _ => pool', (place, client) :: s.opened⟩
  | failed {e : Endpoint} {pool pool' : Pool Connection} {failure : Failure}
      (h : s.cache.pools[place]? = some (e, pool))
      (htakes : Pool.Takes (fun _ => e.client login) pool (.error failure) pool') :
      Enters s login place { s with cache := s.cache.modify place fun _ => pool' }

theorem enters (s : SharedPools) (login : Login) (place : Nat) :
    Enters s login place (s.enter login place) := by
  cases hpool : s.cache.pools[place]? with
  | none =>
    have hsame : s.enter login place = s := by simp only [enter, PoolCache.take?, hpool]; rfl
    rw [hsame]
    exact .nowhere hpool
  | some entry =>
    obtain ⟨e, pool⟩ := entry
    obtain ⟨answer, pool', htake, htakes⟩ := Pool.exists_takes (fun _ => e.client login) pool
    cases answer with
    | ok client =>
      have henter : s.enter login place
          = ⟨s.cache.modify place fun _ => pool', (place, client) :: s.opened⟩ := by
        simp only [enter, PoolCache.take?, hpool, Option.map_some, htake]
      rw [henter]
      exact .lent hpool htakes
    | error failure =>
      have henter : s.enter login place
          = { s with cache := s.cache.modify place fun _ => pool' } := by
        simp only [enter, PoolCache.take?, hpool, Option.map_some, htake]
      rw [henter]
      exact .failed hpool htakes

theorem endpoints_enter (s : SharedPools) (login : Login) (place : Nat) :
    (s.enter login place).cache.endpoints = s.cache.endpoints := by
  have h := s.enters login place
  generalize s.enter login place = s' at h
  cases h with
  | nowhere h => rfl
  | lent h htakes => exact PoolCache.endpoints_modify _ _ _
  | failed h htakes => exact PoolCache.endpoints_modify _ _ _

theorem endpoints_leave (s : SharedPools) (block : Nat) :
    (s.leave block).cache.endpoints = s.cache.endpoints := by
  unfold leave
  cases s.opened[block]? with
  | none => rfl
  | some o => exact PoolCache.endpoints_modify _ _ _

/-- A step keeps the places of the endpoints, and at most a call for a pool adds one behind them. -/
theorem endpoints_step (s : SharedPools) (step : Step) :
    (step.after s).cache.endpoints = s.cache.endpoints ∨
      ∃ job uri, step = .get job uri ∧ Endpoint.ofJob job uri ∉ s.cache.endpoints ∧
        ¬Job.BadPoolSize job ∧
        (step.after s).cache.endpoints = s.cache.endpoints ++ [.ofJob job uri] := by
  cases step with
  | enter login place => exact Or.inl (endpoints_enter s login place)
  | leave block => exact Or.inl (endpoints_leave s block)
  | get job uri =>
    rcases s.cache.endpoints_get job uri with hsame | ⟨hnew, hsize, hmore⟩
    · exact Or.inl hsame
    · exact Or.inr ⟨job, uri, rfl, hnew, hsize, hmore⟩

theorem endpoints_grow (s : SharedPools) (steps : List Step) :
    s.cache.endpoints <+: (s.after steps).cache.endpoints := by
  refine List.foldlRecOn (motive := fun s' => s.cache.endpoints <+: s'.cache.endpoints) steps
    Step.after (List.prefix_refl _) ?_
  intro s' hgrown step _
  rcases endpoints_step s' step with hsame | ⟨job, uri, -, -, -, hmore⟩
  · rw [hsame]
    exact hgrown
  · rw [hmore]
    exact hgrown.trans (List.prefix_append _ _)

/-- A place stands for its endpoint from then on. -/
theorem endpoint_after {s : SharedPools} {place : Nat} {e : Endpoint}
    (h : s.cache.endpoints[place]? = some e) (steps : List Step) :
    (s.after steps).cache.endpoints[place]? = some e := by
  obtain ⟨more, hmore⟩ := endpoints_grow s steps
  have hlt := (List.getElem?_eq_some_iff.1 h).1
  rw [← hmore, List.getElem?_append_left hlt]
  exact h

theorem nodup_endpoints (steps : List Step) : (fresh.after steps).cache.endpoints.Nodup := by
  have hfresh : fresh.cache.endpoints.Nodup := List.nodup_nil
  refine List.foldlRecOn (motive := fun s => s.cache.endpoints.Nodup) steps Step.after hfresh ?_
  intro s hnodup step _
  rcases endpoints_step s step with hsame | ⟨job, uri, -, hnew, -, hmore⟩
  · rw [hsame]
    exact hnodup
  · rw [hmore]
    exact List.nodup_append.2 ⟨hnodup, List.nodup_singleton _, by
      intro e he e' he' heq
      obtain rfl := List.mem_singleton.1 he'
      exact hnew (heq ▸ he)⟩

/-- One of the calls asked for the pool of the endpoint, with a size that a pool can have. -/
def Called (steps : List Step) (e : Endpoint) : Prop :=
  ∃ job uri, Step.get job uri ∈ steps ∧ Endpoint.ofJob job uri = e ∧ ¬Job.BadPoolSize job

theorem called_concat (steps : List Step) (step : Step) (e : Endpoint) :
    Called (steps ++ [step]) e ↔ Called steps e ∨
      ∃ job uri, step = .get job uri ∧ Endpoint.ofJob job uri = e ∧ ¬Job.BadPoolSize job := by
  unfold Called
  constructor
  · intro h
    obtain ⟨job, uri, hmem, hcall⟩ := h
    rcases List.mem_append.1 hmem with hmem | hmem
    · exact Or.inl ⟨job, uri, hmem, hcall⟩
    · exact Or.inr ⟨job, uri, (List.mem_singleton.1 hmem).symm, hcall⟩
  · intro h
    rcases h with ⟨job, uri, hmem, hcall⟩ | ⟨job, uri, rfl, hcall⟩
    · exact ⟨job, uri, List.mem_append_left _ hmem, hcall⟩
    · exact ⟨job, uri, List.mem_append_right _ (List.mem_singleton_self _), hcall⟩

/-- The endpoints with a pool are those that were called for. -/
theorem mem_endpoints_iff (steps : List Step) (e : Endpoint) :
    e ∈ (fresh.after steps).cache.endpoints ↔ Called steps e := by
  induction steps using List.reverseRecOn with
  | nil => simp [Called, fresh, after, PoolCache.endpoints, PoolCache.empty]
  | append_singleton steps step ih =>
    rw [after_concat, called_concat, ← ih]
    constructor
    · intro h
      rcases endpoints_step (fresh.after steps) step with hsame | ⟨job, uri, hget, -, hsize, hmore⟩
      · rw [hsame] at h
        exact Or.inl h
      · rw [hmore] at h
        rcases List.mem_append.1 h with hold | hlast
        · exact Or.inl hold
        · exact Or.inr ⟨job, uri, hget, (List.mem_singleton.1 hlast).symm, hsize⟩
    · intro h
      rcases h with hold | ⟨job, uri, rfl, rfl, hsize⟩
      · exact (endpoints_grow (fresh.after steps) [step]).subset hold
      · have hanswered :
            ¬∃ failure, ((fresh.after steps).cache.get job uri).1 = .error failure := by
          rw [PoolCache.get_refused_iff]
          exact fun hrefused => hsize hrefused.2
        cases hanswer : ((fresh.after steps).cache.get job uri).1 with
        | error failure => exact absurd ⟨failure, hanswer⟩ hanswered
        | ok place => exact List.mem_of_getElem? (PoolCache.endpoint_of_get hanswer)

/-- What a call comes to after steps. -/
def answer (steps : List Step) (job : Settings) (uri : Option String) : Except Failure Nat :=
  ((fresh.after steps).cache.get job uri).1

/-- The place that a call answers with stands for its endpoint after whatever steps follow. -/
theorem endpoint_of_answer {before : List Step} {job : Settings} {uri : Option String}
    {place : Nat} (h : answer before job uri = .ok place) (between : List Step) :
    (fresh.after (before ++ .get job uri :: between)).cache.endpoints[place]?
      = some (.ofJob job uri) := by
  rw [after_append]
  exact endpoint_after (PoolCache.endpoint_of_get h) between

theorem same_place_iff {before between : List Step} {job job' : Settings}
    {uri uri' : Option String} {a b : Nat} (ha : answer before job uri = .ok a)
    (hb : answer (before ++ .get job uri :: between) job' uri' = .ok b) :
    a = b ↔ Endpoint.ofJob job uri = Endpoint.ofJob job' uri' := by
  have hlater : before ++ .get job uri :: (between ++ [.get job' uri'])
      = (before ++ .get job uri :: between) ++ .get job' uri' :: [] := by simp
  have hfirst := endpoint_of_answer ha (between ++ [.get job' uri'])
  have hsecond := endpoint_of_answer hb []
  rw [hlater] at hfirst
  constructor
  · intro heq
    rw [heq, hsecond] at hfirst
    exact (Option.some.inj hfirst).symm
  · intro heq
    have hlt := (List.getElem?_eq_some_iff.1 hfirst).1
    apply (List.getElem?_inj hlt (nodup_endpoints _)).1
    rw [hfirst, hsecond, heq]

/-! ## Clients -/

/-- The client was made for the endpoint, under one of the logins. -/
def MadeUnder (used : Login → Prop) (e : Endpoint) (client : Connection) : Prop :=
  ∃ login, used login ∧ e.client login = .ok client

/-- Idle or out, every client was made for the endpoint of its pool. -/
structure Faithful (used : Login → Prop) (s : SharedPools) : Prop where
  idle_made : ∀ (place : Nat) (e : Endpoint) (pool : Pool Connection),
    s.cache.pools[place]? = some (e, pool) →
      ∀ client ∈ pool.idle, MadeUnder used e client
  opened_made : ∀ (place : Nat) (client : Connection), (place, client) ∈ s.opened →
    ∃ e, s.cache.endpoints[place]? = some e ∧ MadeUnder used e client

/-- Taking a client from a pool of faithful clients leaves such clients and hands one out. -/
theorem made_of_takes {used : Login → Prop} {login : Login} (hlogin : used login) {e : Endpoint}
    {pool pool' : Pool Connection} {answer : Except Failure Connection}
    (hidle : ∀ client ∈ pool.idle, MadeUnder used e client)
    (h : Pool.Takes (fun _ => e.client login) pool answer pool') :
    (∀ client ∈ pool'.idle, MadeUnder used e client) ∧
      ∀ client, answer = .ok client → MadeUnder used e client := by
  cases h with
  | reused hreused =>
    rw [hreused] at hidle
    obtain ⟨hfirst, hrest⟩ := List.forall_mem_cons.1 hidle
    refine ⟨hrest, ?_⟩
    intro client heq
    obtain rfl := Except.ok.inj heq
    exact hfirst
  | made hnone hroom hmade =>
    refine ⟨hidle, ?_⟩
    intro client heq
    obtain rfl := Except.ok.inj heq
    exact ⟨login, hlogin, hmade⟩
  | failed hnone hroom hfailed => exact ⟨hidle, nofun⟩
  | full hnone hfull => exact ⟨hidle, nofun⟩

namespace Faithful

variable {used : Login → Prop} {s : SharedPools}

theorem fresh : Faithful used SharedPools.fresh := by
  refine ⟨?_, ?_⟩
  · intro place e pool h
    cases h
  · intro place client h
    cases h

theorem get (h : Faithful used s) (job : Settings) (uri : Option String) :
    Faithful used (Step.after s (.get job uri)) := by
  refine ⟨?_, ?_⟩
  · apply PoolCache.forall_get h.idle_made
    intro pool hidle _ client hclient
    rw [hidle] at hclient
    cases hclient
  · intro place client hopen
    obtain ⟨e, he, hmade⟩ := h.opened_made place client hopen
    exact ⟨e, endpoint_after he [.get job uri], hmade⟩

/-- A changed pool has to keep to its endpoint, and new blocks to that of theirs. -/
theorem exchange (h : Faithful used s) {place : Nat} {f : Pool Connection → Pool Connection}
    {opened : List (Nat × Connection)}
    (hf : ∀ (e : Endpoint) (pool : Pool Connection), s.cache.pools[place]? = some (e, pool) →
      ∀ client ∈ (f pool).idle, MadeUnder used e client)
    (hopened : ∀ (place : Nat) (client : Connection), (place, client) ∈ opened →
      ∃ e, s.cache.endpoints[place]? = some e ∧ MadeUnder used e client) :
    Faithful used ⟨s.cache.modify place f, opened⟩ := by
  refine ⟨?_, ?_⟩
  · refine PoolCache.forall_modify
      (p := fun _ e pool => ∀ client ∈ pool.idle, MadeUnder used e client) ?_ hf
    intro other e pool _ hpool
    exact h.idle_made other e pool hpool
  · intro place' client hopen
    show ∃ e, (s.cache.modify place f).endpoints[place']? = some e ∧ _
    rw [PoolCache.endpoints_modify]
    exact hopened place' client hopen

/-- The pool at a place is the only one there. -/
theorem of_pool {place : Nat} {e : Endpoint} {pool pool' : Pool Connection}
    (hpool : s.cache.pools[place]? = some (e, pool))
    (hidle : ∀ client ∈ pool'.idle, MadeUnder used e client) (e' : Endpoint)
    (before : Pool Connection) (hbefore : s.cache.pools[place]? = some (e', before)) :
    ∀ client ∈ pool'.idle, MadeUnder used e' client := by
  rw [hpool] at hbefore
  obtain ⟨rfl, rfl⟩ := Prod.mk.inj (Option.some.inj hbefore)
  exact hidle

theorem enter (h : Faithful used s) {login : Login} (hlogin : used login) (place : Nat) :
    Faithful used (s.enter login place) := by
  have henters := s.enters login place
  generalize s.enter login place = s' at henters
  cases henters with
  | nowhere hnone => exact h
  | @lent e pool pool' client hpool htakes =>
    obtain ⟨hidle, hout⟩ := made_of_takes hlogin (h.idle_made place e pool hpool) htakes
    apply h.exchange (of_pool hpool hidle)
    intro place' client' hopen
    rcases List.mem_cons.1 hopen with heq | hold
    · obtain ⟨rfl, rfl⟩ := Prod.mk.inj heq
      refine ⟨e, ?_, hout client' rfl⟩
      rw [PoolCache.getElem?_endpoints, hpool]
      rfl
    · exact h.opened_made place' client' hold
  | @failed e pool pool' failure hpool htakes =>
    obtain ⟨hidle, -⟩ := made_of_takes hlogin (h.idle_made place e pool hpool) htakes
    exact h.exchange (of_pool hpool hidle) h.opened_made

theorem leave (h : Faithful used s) (block : Nat) : Faithful used (s.leave block) := by
  unfold SharedPools.leave
  cases hblock : s.opened[block]? with
  | none => exact h
  | some o =>
    obtain ⟨place, client⟩ := o
    obtain ⟨e, he, hmade⟩ := h.opened_made place client (List.mem_of_getElem? hblock)
    apply h.exchange
    · intro e' pool hpool client' hclient'
      rw [PoolCache.getElem?_endpoints, hpool] at he
      obtain rfl : e' = e := Option.some.inj he
      rcases List.mem_cons.1 hclient' with rfl | hold
      · exact hmade
      · exact h.idle_made place e' pool hpool client' hold
    · intro place' client' hopen
      exact h.opened_made place' client' (List.mem_of_mem_eraseIdx hopen)

theorem step (h : Faithful used s) {step : Step}
    (hused : ∀ login place, step = .enter login place → used login) :
    Faithful used (step.after s) := by
  cases step with
  | get job uri => exact h.get job uri
  | enter login place => exact h.enter (hused login place rfl) place
  | leave block => exact h.leave block

theorem after (h : Faithful used s) {steps : List Step}
    (hused : ∀ login place, Step.enter login place ∈ steps → used login) :
    Faithful used (s.after steps) := by
  refine List.foldlRecOn steps Step.after h ?_
  intro s' hfaithful step hmem
  apply hfaithful.step
  intro login place heq
  rw [heq] at hmem
  exact hused login place hmem

end Faithful

/-- Of a client that was made for an endpoint, all three parts are known. -/
theorem MadeUnder.parts {used : Login → Prop} {job : Settings} {uri : Option String}
    {client : Connection} (hkeeps : ∀ login, used login → Connection.KeepsHost login)
    (h : MadeUnder used (.ofJob job uri) client) :
    client.profile = Job.nonEmpty? job Settings.profileKey ∧
      client.catalog = (Job.nonEmpty? job Job.catalogKey).getD Connection.defaultCatalog ∧
      ∃ login, used login ∧ Connection.HostOf login client.profile uri client.host := by
  obtain ⟨login, hlogin, hclient⟩ := h
  have hprofile : Connection.given? (Job.nonEmpty? job Settings.profileKey)
      = Job.nonEmpty? job Settings.profileKey := by
    simp [Connection.given?, Job.nonEmpty?, Option.filter_filter]
  obtain ⟨host, hhost, rfl⟩ := Endpoint.client_ok hclient
  exact ⟨rfl, rfl, login, hlogin, Connection.connect_host (hkeeps login hlogin) hprofile hhost⟩

/-- The clients that are out of a pool were made for the endpoint that it was asked for with. -/
theorem made_of_opened {before between : List Step} {job : Settings} {uri : Option String}
    {place : Nat} (h : answer before job uri = .ok place) {client : Connection}
    (hopen : (place, client) ∈ (fresh.after (before ++ .get job uri :: between)).opened) :
    MadeUnder (fun login => ∃ there, Step.enter login there ∈ before ++ .get job uri :: between)
      (.ofJob job uri) client := by
  have hfaithful : Faithful
      (fun login => ∃ there, Step.enter login there ∈ before ++ .get job uri :: between)
      (fresh.after (before ++ .get job uri :: between)) :=
    Faithful.fresh.after fun login there hmem => ⟨there, hmem⟩
  obtain ⟨e, he, hmade⟩ := hfaithful.opened_made place client hopen
  rw [endpoint_of_answer h between] at he
  obtain rfl := Option.some.inj he
  exact hmade

/-- A refused call is as if it had not been made. -/
theorem after_refused {steps : List Step} {job : Settings} {uri : Option String}
    {failure : Failure} (h : answer steps job uri = .error failure) :
    Step.after (fresh.after steps) (.get job uri) = fresh.after steps := by
  show ({ fresh.after steps with cache := _ } : SharedPools) = _
  rw [PoolCache.get_refused_keeps h]

/-- With a good size a call comes to the pool of its endpoint, whatever went before. -/
theorem exists_answer {job : Settings} (hsize : ¬Job.BadPoolSize job) (steps : List Step)
    (uri : Option String) :
    ∃ place, answer steps job uri = .ok place ∧
      (Step.after (fresh.after steps) (.get job uri)).cache.endpoints[place]?
        = some (.ofJob job uri) := by
  cases h : answer steps job uri with
  | ok place => exact ⟨place, rfl, PoolCache.endpoint_of_get h⟩
  | error failure =>
    exact absurd (((fresh.after steps).cache.get_refused_iff job uri).1 ⟨failure, h⟩).2 hsize

/-- Through every history of calls for pools and of blocks that are entered and left:

* the endpoints with a pool are those that were called for with a size that a pool can have;
* a call is refused exactly for an endpoint without a pool and a size that is written down but not
  as a whole number from one on; then it changes nothing, and whatever follows, the endpoint gets
  its pool as soon as it is asked for with a good size;
* two calls come to the same pool exactly if profile, address and catalog are the same, where an
  empty profile is none and an empty catalog is the usual one;
* a client that is out of a pool has the profile and the catalog of the pool, and the host of its
  address or else of its profile. -/
theorem pools_isolated (before : List Step) (job : Settings) (uri : Option String) :
    (∀ e, e ∈ (fresh.after before).cache.endpoints ↔ Called before e) ∧
    ((∃ failure, answer before job uri = .error failure) ↔
      Endpoint.ofJob job uri ∉ (fresh.after before).cache.endpoints ∧ Job.BadPoolSize job) ∧
    (∀ failure, answer before job uri = .error failure →
      Step.after (fresh.after before) (.get job uri) = fresh.after before ∧
      ∀ between job', Endpoint.ofJob job' uri = Endpoint.ofJob job uri → ¬Job.BadPoolSize job' →
        ∃ place, answer (before ++ .get job uri :: between) job' uri = .ok place ∧
          (Step.after (fresh.after (before ++ .get job uri :: between))
            (.get job' uri)).cache.endpoints[place]? = some (.ofJob job uri)) ∧
    ∀ place, answer before job uri = .ok place → ∀ between,
      (∀ job' uri' place', answer (before ++ .get job uri :: between) job' uri' = .ok place' →
        (place = place' ↔
          Job.nonEmpty? job Settings.profileKey = Job.nonEmpty? job' Settings.profileKey ∧
          uri = uri' ∧
          (Job.nonEmpty? job Job.catalogKey).getD "hive_metastore"
            = (Job.nonEmpty? job' Job.catalogKey).getD "hive_metastore")) ∧
      ((∀ login there, Step.enter login there ∈ before ++ .get job uri :: between →
          Connection.KeepsHost login) →
        ∀ client, (place, client) ∈ (fresh.after (before ++ .get job uri :: between)).opened →
          client.profile = Job.nonEmpty? job Settings.profileKey ∧
          client.catalog = (Job.nonEmpty? job Job.catalogKey).getD "hive_metastore" ∧
          ∃ login, (∃ there, Step.enter login there ∈ before ++ .get job uri :: between) ∧
            Connection.HostOf login client.profile uri client.host) := by
  refine ⟨mem_endpoints_iff before, PoolCache.get_refused_iff _ job uri, ?_, ?_⟩
  · intro failure hrefused
    refine ⟨after_refused hrefused, ?_⟩
    intro between job' hsame hsize
    rw [← hsame]
    exact exists_answer hsize _ uri
  · intro place hplace between
    refine ⟨?_, ?_⟩
    · intro job' uri' place' hplace'
      rw [same_place_iff hplace hplace', Endpoint.ofJob, Endpoint.ofJob, Endpoint.mk.injEq]
      exact Iff.rfl
    · intro hkeeps client hopen
      apply (made_of_opened hplace hopen).parts
      intro login hused
      obtain ⟨there, hmem⟩ := hused
      exact hkeeps login there hmem

/-- A login that leads to the host it is given, or else to one named like the profile. -/
def namesakeLogin : Login := fun profile host =>
  .ok (host.or (profile.map fun name => "https://" ++ name ++ "/"))

theorem keepsHost_namesakeLogin : Connection.KeepsHost namesakeLogin := by
  intro profile host answer h
  exact (Except.ok.inj h).symm

def devJob : Settings := .ofList [(Settings.profileKey, "dev")]

/-- A pool without an address and one with an address, and a block of each. -/
def twoPools : List Step :=
  [.get devJob (some "https://a/?o=1"), .enter namesakeLogin 1, .enter namesakeLogin 0]

theorem pools_isolated_of_two :
    Connection.KeepsHost namesakeLogin ∧ answer [] devJob none = .ok 0 ∧
      ∃ client, (0, client) ∈ (fresh.after ([] ++ .get devJob none :: twoPools)).opened ∧
        client.profile = some "dev" ∧ client.catalog = "hive_metastore" ∧
        ∃ login, Connection.HostOf login client.profile none client.host := by
  have hkeeps := keepsHost_namesakeLogin
  obtain ⟨-, -, -, hplace⟩ := pools_isolated [] devJob none
  obtain ⟨-, hclients⟩ := hplace 0 rfl twoPools
  have hused : ∀ login there, Step.enter login there ∈ [] ++ .get devJob none :: twoPools →
      Connection.KeepsHost login := by
    intro login there hmem
    simp only [twoPools, List.nil_append, List.mem_cons, reduceCtorEq, false_or, Step.enter.injEq,
      List.not_mem_nil, or_false] at hmem
    rcases hmem with ⟨rfl, -⟩ | ⟨rfl, -⟩
    · exact hkeeps
    · exact hkeeps
  obtain ⟨hprofile, hcatalog, login, -, hhost⟩ :=
    hclients hused ⟨some "dev", some "https://dev", "hive_metastore"⟩ List.mem_cons_self
  exact ⟨hkeeps, rfl, _, List.mem_cons_self, hprofile, hcatalog, login, hhost⟩

end SharedPools
end CatalogScout
