import Atlas.Bootstrap.Provisioning
import Atlas.Requests.Authority

/-!
# Atlas.Bootstrap.Platform

The platform from the bootstrap script on: the script runs on a database
without organizations, and then the API answers requests, any number of them at
once.

The script leaves an intact database with one organization, which belongs to
the administrator.  Since requests make nobody an owner, the administrator is
the only one who is ever let in.
-/

namespace Atlas

open StoreKit

namespace Bootstrap

/-! ## What the script leaves -/

/-- The database is intact once the user is ready. -/
theorem ReadyUser.intact {bcryptHash : String → String} {rt : Runtime} {cfg : BootstrapConfig}
    {w w₁ : World} {result : Provisioned} (hw : w.Intact)
    (h : ReadyUser bcryptHash rt cfg w result w₁) : w₁.Intact := by
  cases h with
  | reused => exact hw
  | created hnone huser hwrites => exact intact_putUser hw hwrites

/-- The database is intact once the organization is ready. -/
theorem ReadyOrganization.intact {given : Given} {cfg : BootstrapConfig} {ownerId : String}
    {w w₁ : World} {result : Provisioned} (hw : w.Intact)
    (h : ReadyOrganization given cfg ownerId w result w₁) : w₁.Intact := by
  cases h with
  | reused => exact hw
  | created hnone horg hsaved =>
      obtain ⟨orm, w₂, hsave, hlift⟩ := Program.bind_run_eq_ok hsaved
      obtain ⟨rfl, table, htable, rfl⟩ := OrganizationRepository.saveOrm_ok hsave
      obtain ⟨-, rfl⟩ := lift_ok hlift
      exact intact_saveOrganization hw htable

/-- Where there were no organizations, the one of the script is the only one. -/
theorem ReadyOrganization.only {given : Given} {cfg : BootstrapConfig} {ownerId : String}
    {w w₁ : World} {result : Provisioned} (hcfg : cfg.Normal) (hnone : w.organizations.rows = [])
    (h : ReadyOrganization given cfg ownerId w result w₁) :
    w₁.users = w.users ∧ ∃ org, (∀ row ∈ w₁.organizations.rows, row = org) ∧
      Pg.uuid ownerId = some org.ownerId ∧ Pg.uuid result.id = some org.id := by
  cases h with
  | reused hrow hdomain =>
      rw [organizationOf, hnone] at hrow
      cases hrow
  | created hfree horg hsaved =>
      obtain ⟨-, -, -, howner⟩ := adminOrganization_cases hcfg horg
      obtain ⟨hid, row, rfl, huuid, -, -, hbelongs⟩ :=
        OrganizationRepository.provision_writes hsaved
      refine ⟨rfl, row, fun other hother => ?_, howner ▸ hbelongs, hid ▸ huuid⟩
      rcases (w.organizations.mem_put_iff row other).mp hother with hsame | ⟨hold, -⟩
      · exact hsame
      · rw [hnone] at hold
        cases hold

/-- **The script leaves an intact database**; where there were no organizations,
it has one then, of the user with the address of the administrator. -/
theorem run_leaves {nfkd bcryptHash : String → String} {env : Env} {given : Given}
    {w w' : World} {outcome : BootstrapOutcome} (hw : w.Intact)
    (hnone : w.organizations.rows = [])
    (h : (run nfkd bcryptHash env given).run w = (.ok outcome, w')) :
    w'.Intact ∧ ∃ cfg admin org, readConfig nfkd env = .ok cfg ∧ userOf cfg w' = some admin ∧
      Pg.uuid outcome.userId = some admin.id ∧ Pg.uuid outcome.organizationId = some org.id ∧
      org.ownerId = admin.id ∧ ∀ row ∈ w'.organizations.rows, row = org := by
  obtain ⟨cfg, user, created, w₁, hread, -, hfirst, hsecond, rfl⟩ := run_ok h
  have hcfg := normal_of_readConfig hread
  have huser := provisionAdminUser_ok hfirst
  have horganization := provisionOrganization_ok hsecond
  obtain ⟨hsame, admin, -, hadmin, -, hfrom⟩ := huser.after hcfg
  obtain ⟨-, hid⟩ := intendedOwner_eq (fun row hrow => (hw.consistent.users row hrow).columns) hfrom
  obtain ⟨hsame', org, honly, howner, horgId⟩ := horganization.only hcfg (hsame ▸ hnone)
  refine ⟨horganization.intact (huser.intact hw), cfg, admin, org, hread, ?_, hid, horgId,
    Option.some.inj (howner.symm.trans hid), honly⟩
  rw [userOf, AuthenticateHandler.userFor, hsame']
  exact hadmin

/-! ## And then the API -/

section Platform

variable {ι Token : Type} [DecidableEq ι]

/-- What the script leaves of an empty database. -/
def startedWorld : World := ((run id sampleHash sampleEnv sampleGiven).run emptyWorld).2

/-- What the script answers and leaves on an empty database. -/
theorem run_startedWorld : (run id sampleHash sampleEnv sampleGiven).run emptyWorld =
    (.ok ⟨Pg.uuidOf 9, true, Pg.uuidOf 8, true, true⟩, startedWorld) :=
  Prod.ext (by decide +kernel) rfl

theorem emptyWorld_intact : emptyWorld.Intact where
  consistent := {
    users _ h := absurd h List.not_mem_nil
    emails _ h := absurd h List.not_mem_nil
    organizations _ h := absurd h List.not_mem_nil
    slugs _ h := absurd h List.not_mem_nil }
  owners _ h := absurd h List.not_mem_nil
  definitions _ h := absurd h List.not_mem_nil
  executions _ h := absurd h List.not_mem_nil
  defined _ h := absurd h List.not_mem_nil

/-- The administrator logs in and founds `beta`. -/
def adminJobs : Fin 2 → Job JwtPayload
  | 0 => .serve (signingApi (Pg.uuidOf 4))
      (.login ⟨none, none⟩ ⟨"admin@acme.test", "correct horse", some "acme"⟩ none)
  | 1 => .serve (signingApi (Pg.uuidOf 5)) (.guarded {
      headers := ⟨none, none⟩
      token := some ⟨Pg.uuidOf 8, some "admin@acme.test", Pg.uuidOf 9, some "owner", .access⟩
      route := .createOrganization ⟨"Beta", "beta", none⟩
      invalid := none })

/-- The two jobs find their ids free, and share none. -/
theorem adminJobs_ready : Ready adminJobs startedWorld := by
  have hid : ∀ i, Pg.uuid (adminJobs i).generateId = some (adminJobs i).generateId := by
    decide +kernel
  have hfree : ∀ i,
      (adminJobs i).generateId ∉ startedWorld.users.rows.map UserOrmEntity.id ∧
      (adminJobs i).generateId ∉ startedWorld.organizations.rows.map OrganizationOrmEntity.id ∧
      (adminJobs i).generateId ∉
        startedWorld.workflowExecutions.rows.map WorkflowExecutionOrmEntity.id := by
    decide +kernel
  have hapart : ∀ i j, (adminJobs i).generateId = (adminJobs j).generateId → i = j := by
    decide +kernel
  refine ⟨(run_leaves emptyWorld_intact rfl run_startedWorld).1, fun i => ⟨?_, ?_, ?_⟩,
    fun i j hij k hk hk' => ?_⟩
  · intro k hk
    obtain rfl := Option.some.inj ((hid i).symm.trans hk)
    exact (hfree i).1
  · intro k hk
    obtain rfl := Option.some.inj ((hid i).symm.trans hk)
    exact (hfree i).2.1
  · intro k hk
    obtain rfl := Option.some.inj ((hid i).symm.trans hk)
    exact (hfree i).2.2
  · exact hij (hapart i j (Option.some.inj
      (((hid i).symm.trans hk).trans ((hid j).symm.trans hk').symm)))

end Platform

end Bootstrap

end Atlas
