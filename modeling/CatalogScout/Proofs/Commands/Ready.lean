import CatalogScout.Proofs.Discovery.OptOut
import CatalogScout.Proofs.Lists
import CatalogScout.Proofs.Pool.Endpoints

/-!
What a job that is set up is sure of.

Its pool is new, so the first thing that a run does is to make a client, of the catalog that the job
names.  If nothing in the surroundings stops a run, no failure of the job does: not of the login,
not of a listing, a description or a store.
-/

namespace CatalogScout

open Discovery

/-! ## Failures that stop no run -/

/-- Settings that cannot be read are no text. -/
theorem TreeStore.settings_goes_on {t : FileTree} {root node : Path} {failure : Failure}
    (h : settings t root node = .error failure) : failure.stopsRun = false := by
  by_cases hbad : ∃ d ∈ chain root node, ∃ f, ownSettings t d = .error f
  · obtain ⟨d, -, f, hown, hfold⟩ := foldlM_error (chain root node) ∅ hbad
    obtain rfl : f = failure := Except.error.inj (hfold.symm.trans h)
    unfold ownSettings at hown
    split at hown
    · cases hown
    · unfold Settings.ofOctets at hown
      split at hown
      · cases hown
      · obtain rfl := Except.error.inj hown
        rfl
  · have hall : ∀ d ∈ chain root node, ∃ own, ownSettings t d = .ok own := by
      intro d hd
      cases hown : ownSettings t d with
      | ok own => exact ⟨own, rfl⟩
      | error f => exact absurd ⟨d, hd, f, hown⟩ hbad
    obtain ⟨r, hr, -⟩ := foldlM_ok (chain root node) ∅ hall
    cases hr.symm.trans h

theorem ConfigClient.lookup_goes_on {t : FileTree} {uri : String} {failure : Failure}
    (h : lookup t uri = .error failure) : failure.stopsRun = false := by
  unfold lookup at h
  cases htarget : target uri with
  | error f =>
    rw [htarget] at h
    obtain rfl := Except.error.inj h
    unfold target at htarget
    split at htarget
    · obtain rfl := Except.error.inj htarget
      rfl
    · split at htarget
      · obtain rfl := Except.error.inj htarget
        rfl
      · cases htarget
  | ok address =>
    obtain ⟨scheme, path⟩ := address
    simp only [htarget] at h
    split at h
    · unfold TreeStore.lookup at h
      cases hroot : TreeStore.rootOf t path with
      | error f =>
        simp only [hroot] at h
        obtain rfl := Except.error.inj h
        unfold TreeStore.rootOf at hroot
        split at hroot
        · cases hroot
        · obtain rfl := Except.error.inj hroot
          rfl
      | ok root =>
        simp only [hroot] at h
        exact TreeStore.settings_goes_on h
    · obtain rfl := Except.error.inj h
      rfl

theorem Outage.goes_on {o : Outage} (h : o.kind ≠ .interrupt) :
    (Failure.outage o).stopsRun = false := by
  obtain ⟨kind, message⟩ := o
  cases kind with
  | interrupt => exact absurd rfl h
  | _ => rfl

theorem Workspace.answered_goes_on {α β : Type} {read : α → β} {answer : Except Outage α}
    {failure : Failure} (hcalm : ∀ o, answer = .error o → o.kind ≠ .interrupt)
    (h : answered read answer = .error failure) : failure.stopsRun = false := by
  cases answer with
  | ok a => cases h
  | error o =>
    obtain rfl := Except.error.inj h
    exact Outage.goes_on (hcalm o rfl)

theorem Endpoint.client_goes_on {login : Login} {e : Endpoint} {failure : Failure}
    (hcalm : ∀ profile host o, login profile host = .error o → o.kind ≠ .interrupt)
    (h : e.client login = .error failure) : failure.stopsRun = false := by
  unfold Endpoint.client Connection.connect at h
  dsimp only at h
  split at h
  · next o hlogin =>
    obtain rfl := Except.error.inj h
    unfold Connection.loginFailure
    split
    · rfl
    · exact Outage.goes_on (hcalm _ _ o hlogin)
  · cases h

namespace Commands

/-- No failure that the surroundings report stops a run. -/
structure Calm (s : Surroundings) : Prop where
  login : ∀ profile host o, s.login profile host = .error o → o.kind ≠ .interrupt
  schemas : ∀ catalog o, s.workspace.schemas catalog = .error o → o.kind ≠ .interrupt
  tables : ∀ catalog db o, s.workspace.tables catalog db = .error o → o.kind ≠ .interrupt
  table : ∀ fullName o, s.workspace.table fullName = .error o → o.kind ≠ .interrupt

/-! ## Jobs that are set up -/

/-- The endpoint that the job names. -/
def Context.endpoint (c : Context) : Endpoint :=
  .ofJob c.finder.job (c.finder.job.get? Job.metastoreUriKey)

/-- The supply of a job that is set up: a pool that lends nothing yet, of clients of the job's
endpoint. -/
structure Context.Ready (c : Context) (login : Login) : Prop where
  idle_eq : c.supply.pool.idle = []
  inUse_eq : c.supply.pool.inUse = 0
  connect_eq : ∀ n, (c.supply.connect n).client = c.endpoint.client login

theorem ready_of_ofOptions [Text.CharacterNames] {login : Login} {options : JobOptions}
    {c : Context} (h : Context.ofOptions login options = .ok c) : c.Ready login := by
  obtain ⟨job, -, h⟩ := Except.bind_eq_ok_iff.1 h
  obtain ⟨finder, hfinder, h⟩ := Except.bind_eq_ok_iff.1 h
  obtain ⟨supply, hsupply, h⟩ := Except.bind_eq_ok_iff.1 h
  obtain rfl := Except.ok.inj h
  obtain ⟨policy, -, hfinder⟩ := Except.bind_eq_ok_iff.1 hfinder
  obtain rfl := Except.ok.inj hfinder
  obtain ⟨pool, hpool, hsupply⟩ := Except.bind_eq_ok_iff.1 hsupply
  obtain rfl := Except.ok.inj hsupply
  rcases Job.pool_cases job with ⟨made, hmade, hidle, hinUse, -⟩ | ⟨failure, hfailed, -⟩
  · obtain rfl := Except.ok.inj (hmade.symm.trans hpool)
    exact ⟨hidle, hinUse, fun _ => rfl⟩
  · cases hfailed.symm.trans hpool

section Ready

variable {s : Surroundings} {c : Context}

/-- The first client of a run is made for the job's endpoint. -/
theorem Context.Ready.first_client (h : c.Ready s.login) :
    clientNow (c.scene s) (c.world s).pool = c.endpoint.client s.login := by
  have hroom : c.supply.pool.inUse < c.supply.pool.size := by
    rw [h.inUse_eq]
    exact c.supply.pool.size_pos
  have htake : clientNow (c.scene s) (c.world s).pool
      = (c.supply.connect c.supply.pool.asked).client := by
    show (Pool.take (fun n => (c.supply.connect n).client) c.supply.pool).1 = _
    simp only [Pool.take, h.idle_eq, hroom, if_true]
    cases (c.supply.connect c.supply.pool.asked).client with
    | ok client => rfl
    | error failure => rfl
  rw [htake, h.connect_eq]

theorem catalog_of_clientNow (h : c.Ready s.login) {client : Connection}
    (hclient : clientNow (c.scene s) (c.world s).pool = .ok client) :
    client.catalog = c.endpoint.catalog := by
  rw [h.first_client] at hclient
  obtain ⟨host, -, rfl⟩ := Endpoint.client_ok hclient
  rfl

/-- In calm surroundings no failure of a listing stops the run. -/
theorem ListingFault.goes_on (h : c.Ready s.login) (hcalm : Calm s) {asked : List Request}
    {cause : Failure}
    (hfault : c.finder.ListingFault (c.scene s) (c.world s).pool asked cause) :
    cause.stopsRun = false := by
  cases hfault with
  | client hclient =>
    rw [h.first_client] at hclient
    exact Endpoint.client_goes_on hcalm.login hclient
  | databases hclient hdatabases =>
    exact Workspace.answered_goes_on (hcalm.schemas _) hdatabases
  | tables hclient hdatabases hbefore hdb htables =>
    exact Workspace.answered_goes_on (hcalm.tables _ _) htables

/-- In calm surroundings whatever becomes of a table, the run goes on. -/
theorem goesOn_of_calm (hcalm : Calm s) :
    GoesOn (c.scene s) (ConfigClient.lookup s.stores) () c.finder.job where
  builds _ _ := rfl
  receives _ _ := nofun
  lookups_go_on _ _ := ConfigClient.lookup_goes_on
  tables_go_on _ _ _ := Workspace.answered_goes_on (hcalm.table _)

/-- The service of a run reads the stores, whatever it was asked before. -/
theorem answersBy_world (c : Context) (s : Surroundings) :
    AnswersBy (c.scene s).service (ConfigClient.lookup s.stores) (c.world s).config :=
  answersBy_service ConfigClient.Tended.fresh s.stores

end Ready

end Commands
end CatalogScout
