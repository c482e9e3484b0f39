import Atlas.Lib.Atomic
import Atlas.Requests.Interleaving
import Mathlib.Data.Fintype.Basic

/-!
# Atlas.Requests.Authority

Who can come to own an organization.

A guarded request needs a bearer token, a token is answered to a login, and a
login is for a user who owns an organization already.  So where every token is
one that a login was answered with, nobody becomes an owner who was not one at
the beginning (`no_new_owners`): the API has no way in but the owners it finds.
-/

namespace Atlas

open StoreKit StoreKit.Program TenantAwareRepository

/-! ## Owners -/

/- A write either leaves the owners of the organizations alone, or names one who is known
already.  Both saves need that the owner they write is known; the guard of the root only
decides whether the second one writes. -/

/-- The id of somebody an organization belonged to at first. -/
def Owner (w₀ : World) (id : String) : Prop :=
  Pg.uuid id = some id ∧ ∃ org ∈ w₀.organizations.rows, org.ownerId = id

/-- Every organization belongs to somebody one belonged to at first. -/
def Owned (w₀ w : World) : Prop := ∀ org ∈ w.organizations.rows, Owner w₀ org.ownerId

/-- Every organization belongs to one who owns an organization. -/
theorem owned_self {w : World} (hw : w.Consistent) : Owned w w :=
  fun org horg => ⟨(hw.organizations org horg).columns.ownerId, org, horg, rfl⟩

variable {w₀ : World}

/-- Owners are a matter of the organizations alone. -/
theorem Owned.congr {w w' : World} (h : Owned w₀ w) (hsame : w'.organizations = w.organizations) :
    Owned w₀ w' := by
  rw [Owned, hsame]
  exact h

/-- An organization is written with the owner it is given. -/
theorem owned_provision {savedAt : Js.Date} {org : OrganizationAggregate} {w : World}
    (hw : Owned w₀ w) (howner : Owner w₀ org.ownerId) :
    Owned w₀ ((OrganizationRepository.provision savedAt org).run w).2 := by
  rcases provision_run savedAt org w with hnothing | ⟨table, hsave, hwritten⟩
  · rw [hnothing]
    exact hw
  · rw [hwritten]
    obtain ⟨stored, row, hstored, -, rfl, hmerged⟩ := Typeorm.saveRow_cases hsave
    have hstoredOwner : stored.ownerId = org.ownerId := by
      have hcolumn := (OrganizationOrmEntity.storedAs hstored).ownerId
      exact (Option.some.inj (howner.1.symm.trans hcolumn)).symm
    have hrow : row.ownerId = stored.ownerId := by
      rcases hmerged with ⟨-, rfl⟩ | ⟨old, -, rfl⟩
      · rfl
      · rfl
    refine forall_put hw ?_
    rw [hrow, hstoredOwner]
    exact howner

/-- Saving an organization of a known owner adds no new one. -/
theorem owned_save {ctx : Option String} {savedAt : Js.Date} {org : OrganizationAggregate}
    {w : World} (hw : Owned w₀ w) (howner : Owner w₀ org.ownerId) :
    Owned w₀ ((OrganizationRepository.save ctx savedAt org).run w).2 := by
  rcases guardTenant_cases OrganizationRepository.name ctx org.organizationId _
    (OrganizationRepository.provision savedAt org) w with ⟨e, hrejected⟩ | ⟨-, hrun⟩
  · rw [show (OrganizationRepository.save ctx savedAt org).run w = _ from hrejected]
    exact hw
  · rw [show (OrganizationRepository.save ctx savedAt org).run w = _ from hrun]
    exact owned_provision (w := w.noting ctx) hw howner

/-- Who is found to own an organization owned one at first. -/
theorem owner_found {ctx : Option String} {id : String} {org : OrganizationAggregate}
    {w w' : World} (hw : Owned w₀ w)
    (h : (OrganizationRepository.findById ctx id).run w = (.ok (some org), w')) :
    Owner w₀ org.ownerId := by
  obtain ⟨-, -, key, held, -, hfind, hdomain⟩ := OrganizationRepository.findById_ok h
  rw [(OrganizationMapper.toDomain_cases hdomain).2.2.2.2.1]
  exact hw held (Table.mem_of_find? hfind)

/-! ## Handlers -/

/- Only a creation gives an organization to somebody, namely to whoever asks for it.  The
other commands write back the owner they read, or write to another table. -/

section Handlers

/-- Handlers whose steps give no organization to anybody else. -/
abbrev KeepsOwners (w₀ : World) {α : Type} (t : Handler α) : Prop := t.Keeps (Owned w₀)

namespace KeepsOwners

/-- A call that leaves the organizations alone keeps the owners. -/
theorem call {α : Type} {m : App α}
    (hm : ∀ w, (m.run w).2.organizations = w.organizations) : KeepsOwners w₀ (.call m) :=
  .await fun w hw => ⟨hw.congr (hm w), fun _ _ _ => .pure⟩

/-- A query keeps the owners. -/
theorem read {α : Type} {m : App α} (hm : Reads m) : KeepsOwners w₀ (.call m) :=
  call fun w => (World.sameTables_of_tables (hm.tables.part_eq w)).organizations

/-- A branch keeps them if both sides do. -/
theorem branch {α : Type} {c : Prop} [Decidable c] {t u : Handler α} (ht : KeepsOwners w₀ t)
    (hu : KeepsOwners w₀ u) : KeepsOwners w₀ (if c then t else u) := by
  split
  · exact ht
  · exact hu

/-- A publish keeps the owners. -/
theorem publish (bus : EventBus) (event : TenantAwareEvent) :
    KeepsOwners w₀ (bus.steps event) := by
  have hinner : Leaves World.organizations
      (ForwardingEventBus.innerPublish bus.inner [event]) :=
    .bind (.lift _) fun _ => .modify fun _ => rfl
  exact branch (.bind (call hinner.part_eq) fun _ => call fun _ => rfl) (call hinner.part_eq)

/-- Any number of publishes keeps the owners. -/
theorem publishAll (bus : EventBus) (eventType : String) (events : List DomainEvent) :
    KeepsOwners w₀ (publishAllSteps bus.steps eventType events) := by
  induction events with
  | nil => exact .pure
  | cons event events ih => exact .bind (publish bus _) fun _ => ih

/-- Users are saved in a table of their own. -/
theorem saveUser (savedAt : Js.Date) (user : UserAggregate) :
    KeepsOwners w₀ (.call (UserRepository.save savedAt user)) := by
  refine call fun w => ?_
  rcases UserRepository.save_cases savedAt user w with ⟨e, hsave⟩ | ⟨row, hsave, -⟩
  · rw [hsave]
  · rw [hsave]

/-- Executions are saved in a table of their own. -/
theorem saveExecution (ctx : Option String) (rt : Runtime)
    (execution : WorkflowExecutionEntity) :
    KeepsOwners w₀ (.call (WorkflowExecutionRepository.save ctx rt execution)) := by
  refine call fun w => ?_
  rcases WorkflowExecutionRepository.save_cases ctx rt execution w with
    ⟨e, hsave⟩ | ⟨createdAt, row, hsave, -⟩
  · rw [hsave]
    rfl
  · rw [hsave]
    rfl

variable (bus : EventBus) (rt : Runtime)

/-- A registration makes a user, and no owner. -/
theorem register (bcryptHash : String → String) (command : RegisterUserCommand) :
    KeepsOwners w₀ (RegisterUserHandler.steps bus.steps bcryptHash rt command) :=
  .bind (read (reads_existsByEmail command.email)) fun _ =>
    branch .pure (.bind .lift fun user =>
      .bind (saveUser rt.savedAt user) fun _ => .bind (publish bus _) fun _ => .pure)

/-- A login writes a date to a user, and no organization. -/
theorem login {Token : Type} (bcryptCompare : String → String → Bool)
    (sign : JwtPayload → String → Token) (ties : Typeorm.Arrangement OrganizationOrmEntity)
    (command : AuthenticateCommand) :
    KeepsOwners w₀ (AuthenticateHandler.steps bcryptCompare sign ties rt command) := by
  refine .bind (read (reads_findByEmail command.email)) fun found => ?_
  cases found with
  | none => exact .pure
  | some user =>
      refine branch .pure (branch .pure ?_)
      refine .bind (read (reads_resolveOrganization ties _ _)) fun organization => ?_
      cases organization with
      | none => exact .pure
      | some organization =>
          exact branch .pure (branch .pure (.bind (saveUser _ _) fun _ => .pure))

/-- A creation gives the organization to whoever asks for it: that has to be an
owner. -/
theorem create (command : CreateOrganizationCommand)
    (howner : Owner w₀ (command.actorId.getD rt.ownerId)) :
    KeepsOwners w₀ (CreateOrganizationHandler.steps bus.steps rt command) := by
  refine .bind (read (reads_existsBySlug command.slug)) fun _ => branch .pure ?_
  refine .lift_bind fun org horg => ?_
  obtain ⟨slug, -, hcreated⟩ := OrganizationAggregate.create_cases horg
  have horgOwner : Owner w₀ org.ownerId := hcreated ▸ howner
  exact .bind (.await fun w hw => ⟨owned_provision hw horgOwner, fun _ _ _ => .pure⟩)
    fun saved => .bind (publishAll bus _ _) fun _ => .pure

/-- An update leaves the owner of the organization. -/
theorem update (ctx : Option String) (command : UpdateOrganizationCommand) :
    KeepsOwners w₀ (UpdateOrganizationHandler.steps ctx rt command) := by
  unfold UpdateOrganizationHandler.steps
  rw [Thread.call_bind]
  refine .await fun w hw => ⟨hw.congr (World.sameTables_of_tables
    ((reads_findOrganization ctx command.organizationId).tables.part_eq w)).organizations, ?_⟩
  intro found w' hrun
  cases found with
  | none => exact .pure
  | some org =>
      have howner := owner_found hw hrun
      refine .lift_bind fun org' happly => ?_
      obtain ⟨name, plan, updatedAt, hchanged⟩ := UpdateOrganizationCommand.apply_cases happly
      have howner' : Owner w₀ org'.ownerId := hchanged ▸ howner
      exact .bind (.await fun w hw => ⟨owned_save hw howner', fun _ _ _ => .pure⟩) fun _ => .pure

/-- A suspension leaves the owner of the organization. -/
theorem suspend (ctx : Option String) (command : SuspendOrganizationCommand) :
    KeepsOwners w₀ (SuspendOrganizationHandler.steps bus.steps ctx rt command) := by
  unfold SuspendOrganizationHandler.steps
  rw [Thread.call_bind]
  refine .await fun w hw => ⟨hw.congr (World.sameTables_of_tables
    ((reads_findOrganization ctx command.organizationId).tables.part_eq w)).organizations, ?_⟩
  intro found w' hrun
  cases found with
  | none => exact .pure
  | some org =>
      have howner := owner_found hw hrun
      refine .lift_bind fun org' happly => ?_
      obtain ⟨-, event, hchanged⟩ := OrganizationAggregate.suspend_cases happly
      have howner' : Owner w₀ org'.ownerId := hchanged ▸ howner
      exact .bind (.await fun w hw => ⟨owned_save hw howner', fun _ _ _ => .pure⟩)
        fun saved => .bind (publishAll bus _ _) fun _ => .pure

/-- A trigger inserts an execution, and no organization. -/
theorem trigger (ctx : Option String) (command : TriggerWorkflowCommand) :
    KeepsOwners w₀ (TriggerWorkflowHandler.steps bus.steps ctx rt command) := by
  refine .bind (read (reads_findDefinition ctx rt.loadedAt command.definitionId))
    fun found => ?_
  cases found with
  | none => exact .pure
  | some definition =>
      exact branch .pure (.bind (saveExecution ctx rt _) fun _ =>
        .bind (publish bus _) fun _ => .pure)

/-- A cancellation writes an execution, and no organization. -/
theorem cancel (ctx : Option String) (command : CancelWorkflowExecutionCommand) :
    KeepsOwners w₀ (CancelWorkflowExecutionHandler.steps ctx rt command) := by
  refine .bind (read (reads_findExecution ctx rt.loadedAt command.executionId))
    fun found => ?_
  cases found with
  | none => exact .pure
  | some execution =>
      exact .bind .lift fun cancelled => .bind (saveExecution ctx rt _) fun _ => .pure

/-- An audit record is added to the log. -/
theorem record (inet : String → Option String) (ctx : Option String)
    (command : RecordAuditEventCommand) :
    KeepsOwners w₀ (RecordAuditEventHandler.steps bus.steps inet ctx rt command) := by
  refine .bind (call fun w => ?_) fun saved => .bind (publish bus _) fun _ => .pure
  rcases AuditEventRepository.append_cases inet ctx _ w with
    ⟨e, happend⟩ | ⟨row, table, happend, -⟩
  · rw [happend]
    rfl
  · rw [happend]
    rfl

/-! ### Methods -/

/-- Throwing the error of a result changes nothing. -/
theorem valueOrThrow {α : Type} {t : Handler (Result α)} (h : KeepsOwners w₀ t) :
    KeepsOwners w₀ (valueOrThrowSteps t) := .bind h fun _ => .lift

/-- A change of the answer keeps the owners. -/
theorem map {α β : Type} {f : α → β} {t : Handler α} (h : KeepsOwners w₀ t) :
    KeepsOwners w₀ (f <$> t) := .bind h fun _ => .pure

/-- The tenant of the request is read from it. -/
theorem resolved {α : Type} {headers : Headers} {user : JwtPayload}
    {execute : String → Handler (Result α)}
    (h : ∀ tenantId, KeepsOwners w₀ (execute tenantId)) :
    KeepsOwners w₀ (Thread.call (TenantId.resolve headers user) >>= fun tenantId =>
      valueOrThrowSteps (execute tenantId)) :=
  .bind (read (.bind (.modify fun _ => rfl) fun _ => .pure _)) fun tenantId =>
    valueOrThrow (h tenantId)

theorem metrics (server : Server) (ctx : Option TenantContext) :
    KeepsOwners w₀ (DashboardController.metricsSteps server ctx) :=
  .bind (read (reads_query ctx)) fun _ => .bind (read (reads_tenantId ctx)) fun _ =>
    .bind (read (reads_getCount _ _ _ _ _)) fun _ =>
    .bind (read (reads_getCount _ _ _ _ _)) fun _ =>
    .bind (read (reads_getCount _ _ _ _ _)) fun _ =>
    .bind (read (reads_getCount _ _ _ _ _)) fun _ => .bind (read (.gets _)) fun _ =>
    .bind (read (reads_getCount _ _ _ _ _)) fun _ =>
    .bind (read (reads_getCount _ _ _ _ _)) fun _ => .pure

theorem eventSeries (server : Server) (ctx : Option TenantContext) :
    KeepsOwners w₀ (DashboardController.eventSeriesSteps server ctx) :=
  .bind (read (reads_query ctx)) fun _ => .bind (read (reads_tenantId ctx)) fun _ =>
    .bind (read (reads_daysOf _ _ _ _ _ _ _ _)) fun _ =>
    .bind (read (reads_daysOf _ _ _ _ _ _ _ _)) fun _ => .pure

section Api

variable {Token : Type} (api : ApiServer Token)

/-- The routes behind the guards keep the owners, for a user who is one. -/
theorem guarded (headers : Headers) (ctx : Option TenantContext) {user : JwtPayload}
    (howner : Owner w₀ user.sub) (route : Route) :
    KeepsOwners w₀ (api.guardedSteps headers ctx user route) := by
  cases route with
  | createOrganization body => exact map (valueOrThrow (create _ api.rt _ howner))
  | updateOrganization id body => exact map (resolved fun _ => update api.rt _ _)
  | suspendOrganization id body => exact map (resolved fun _ => suspend _ api.rt _ _)
  | cancelExecution id body => exact map (resolved fun _ => cancel api.rt _ _)
  | metrics => exact map (metrics api.toServer ctx)
  | eventSeries => exact map (eventSeries api.toServer ctx)
  | getOrganization id => exact read (.bind (reads_resolved fun _ => .pure _) fun _ => .pure _)
  | listExecutions params => exact read (reads_map _ (reads_listExecutions _ _ _ _ params))
  | getExecution id => exact read (reads_map _ (reads_getExecution _ _ _ _ id))
  | getAuditEvents params =>
      exact read (reads_map _ (AuditEventRepository.leaves_query (fun _ _ => rfl) _ _ _ _))
  | getAuditEvent id =>
      exact read (reads_map _ (AuditEventRepository.leaves_findById (fun _ _ => rfl) _ _))

/-- A request is for an owner, or makes nobody one. -/
theorem serve (request : ApiRequest) (howner : ∀ guarded user, request = .guarded guarded →
      guarded.authorize = .ok user → Owner w₀ user.sub) :
    KeepsOwners w₀ (api.steps request) := by
  refine .bind .lift fun _ => .bind .lift fun _ => ?_
  cases request with
  | register headers body invalid => exact map (valueOrThrow (register _ api.rt _ _))
  | login headers body invalid => exact map (valueOrThrow (login api.rt _ _ _ _))
  | guarded request =>
      exact .lift_bind fun user huser =>
        map (guarded api _ _ (howner request user rfl huser) request.route)

end Api

end KeepsOwners

end Handlers

/-! ## Tokens -/

/- The user of a creation comes from a bearer token, the token from a login, and the login
from an owner.  `owned_run` closes the circle by induction on the schedule: the logins
answered so far were for owners, so the next creation is by one. -/

section Tokens

variable {ι Token : Type}

/-- The claims of the bearer token that the job presents. -/
def Job.bearer? : Job Token → Option JwtPayload
  | .serve _ (.guarded request) => request.token
  | _ => none

/-- Whom the guards let in with the job. -/
def Job.user? : Job Token → Option JwtPayload
  | .serve _ (.guarded request) => request.authorize.toOption
  | _ => none

/-- The tokens that an answer hands out. -/
def JobAnswer.tokens? : JobAnswer Token → Option (TokenPair Token)
  | .response (.tokens pair) => some pair
  | _ => none

/-- The bearer token that the job presents, if it does, is one that a login has
been answered with. -/
def BearerIssued (verify : Token → Option JwtPayload) (jobs : ι → Job Token)
    (s : Threads ι World Exception (JobAnswer Token)) (i : ι) : Prop :=
  ∀ claims ∈ (jobs i).bearer?, ∃ j, ∃ pair ∈ (s.thread j).answer?.bind JobAnswer.tokens?,
    verify pair.accessToken = some claims ∨ verify pair.refreshToken = some claims

instance [Fintype ι] (verify : Token → Option JwtPayload) (jobs : ι → Job Token)
    (s : Threads ι World Exception (JobAnswer Token)) (i : ι) :
    Decidable (BearerIssued verify jobs s i) :=
  inferInstanceAs (Decidable (∀ claims ∈ (jobs i).bearer?, ∃ j,
    ∃ pair ∈ (s.thread j).answer?.bind JobAnswer.tokens?,
      verify pair.accessToken = some claims ∨ verify pair.refreshToken = some claims))

/-- What is verified is what one of the servers has signed. -/
def Verifies (verify : Token → Option JwtPayload) (jobs : ι → Job Token) : Prop :=
  ∀ i api request, jobs i = .serve api request → ∀ claims expiresIn claims',
    verify (api.sign claims expiresIn) = some claims' → claims' = claims

/-- A user who was active and owned an active organization. -/
structure Admits (w₀ : World) (claims : JwtPayload) (row : UserOrmEntity)
    (org : OrganizationOrmEntity) : Prop where
  user : row ∈ w₀.users.rows
  sub : claims.sub = row.id
  active : row.status = .active
  organization : org ∈ w₀.organizations.rows
  tenantId : claims.tenantId = org.id
  tenant : org.status = .ACTIVE
  owner : org.ownerId = row.id

/-- Whoever is let in with such a token is an owner. -/
theorem Admits.ownerOf {claims : JwtPayload} {row : UserOrmEntity} {org : OrganizationOrmEntity}
    (h : Admits w₀ claims row org) (hw₀ : w₀.Consistent) : Owner w₀ claims.sub :=
  h.sub.trans h.owner.symm ▸ owned_self hw₀ org h.organization

/-- The claims that pass the first guard are those of a bearer token. -/
theorem token_of_canActivate {token : Option JwtPayload} {claims : JwtPayload}
    (h : JwtAuthGuard.canActivate token = .ok claims) : token = some claims := by
  cases token with
  | none => cases h
  | some payload =>
      rw [JwtAuthGuard.canActivate, JwtStrategy.validate] at h
      split at h
      · cases h
      · exact congrArg some (Except.ok.inj h)

/-- The user of a job comes from its token. -/
theorem bearer_of_user {job : Job Token} {user : JwtPayload} (h : job.user? = some user) :
    job.bearer? = some user := by
  cases job with
  | serve api request =>
      cases request with
      | register headers body invalid => cases h
      | login headers body invalid => cases h
      | guarded request =>
          have hauthorize : request.authorize = .ok user := by
            cases hcase : request.authorize with
            | error e => simp [Job.user?, hcase, Except.toOption] at h
            | ok claims => simpa [Job.user?, hcase, Except.toOption] using h
          refine token_of_canActivate ?_
          cases hjwt : JwtAuthGuard.canActivate request.token with
          | error e =>
              rw [Request.authorize, hjwt] at hauthorize
              cases hauthorize
          | ok claims =>
              rw [Request.authorize, hjwt] at hauthorize
              cases hrole : RbacGuard.canActivate request.route.roles claims with
              | error e =>
                  simp only [hrole, bind, Except.bind] at hauthorize
                  cases hauthorize
              | ok _ =>
                  simp only [hrole, bind, Except.bind] at hauthorize
                  exact hjwt.trans hauthorize
  | trigger bus ctx rt command => cases h
  | record bus inet ctx rt command => cases h

variable [DecidableEq ι] {jobs : ι → Job Token} {w : World}

/-- What a token buys: its claims are those of an owner. -/
theorem admits_of_issued (hready : Ready jobs w) {verify : Token → Option JwtPayload}
    (hverify : Verifies verify jobs) {schedule : List ι}
    {s : Threads ι World Exception (JobAnswer Token)}
    (hrun : exec Threads.step (started jobs w) schedule = some s) {i : ι} {claims : JwtPayload}
    (hbearer : (jobs i).bearer? = some claims) (hissued : BearerIssued verify jobs s i) :
    ∃ row org, Admits w claims row org := by
  obtain ⟨j, pair, hpair, htoken⟩ := hissued claims hbearer
  obtain ⟨answer, hanswer, htokens⟩ := Option.bind_eq_some_iff.mp hpair
  obtain rfl : answer = .response (.tokens pair) := by
    cases answer with
    | response response =>
        cases response with
        | registered result => cases htokens
        | tokens pair' => rw [Option.some.inj htokens]
        | guarded response => cases htokens
    | triggered result => cases htokens
    | recorded result => cases htokens
  obtain ⟨api, headers, body, invalid, row, org, user, hjob, hgranted, huser, rfl⟩ :=
    granted_of_tokens ((run_jobs hready hrun).2.2 j _ hanswer)
  have hsigned : claims.sub = user.userId ∧ claims.tenantId = org.id := by
    rcases htoken with haccess | hrefresh
    · obtain rfl := hverify j api _ hjob _ _ _ haccess
      exact ⟨rfl, rfl⟩
    · obtain rfl := hverify j api _ hjob _ _ _ hrefresh
      exact ⟨rfl, rfl⟩
  exact ⟨row, org, List.mem_of_find?_eq_some hgranted.found, hsigned.1.trans huser,
    hgranted.active, hgranted.stored, hsigned.2, hgranted.tenant, hgranted.owner⟩

/-- A job for an owner makes nobody else one. -/
theorem Job.keepsOwners (job : Job Token) (howner : ∀ user, job.user? = some user →
    Owner w₀ user.sub) : KeepsOwners w₀ job.steps := by
  cases job with
  | serve api request =>
      refine .map (.serve api request fun guarded user hrequest hauthorize => howner user ?_)
      rw [hrequest, Job.user?, hauthorize]
      rfl
  | trigger bus ctx rt command => exact .map (.trigger bus rt ctx command)
  | record bus inet ctx rt command => exact .map (.record bus rt inet ctx command)

/-- Whoever the guards let in is an owner. -/
theorem admits_of_user (hready : Ready jobs w) {verify : Token → Option JwtPayload}
    (hverify : Verifies verify jobs) {schedule : List ι}
    {s : Threads ι World Exception (JobAnswer Token)}
    (hrun : exec Threads.step (started jobs w) schedule = some s)
    (hissued : Along Threads.step (BearerIssued verify jobs) (started jobs w) schedule) {i : ι}
    (hi : i ∈ schedule) {user : JwtPayload} (huser : (jobs i).user? = some user) :
    ∃ row org, Admits w user row org := by
  obtain ⟨before, after, rfl⟩ := List.append_of_mem hi
  rw [exec_append] at hrun
  obtain ⟨m, hbefore, -⟩ := Option.bind_eq_some_iff.mp hrun
  exact admits_of_issued hready hverify hbefore (bearer_of_user huser)
    (along_append hissued hbefore).2.1

/-- **A run keeps the owners**, where every bearer token was answered in it. -/
theorem owned_run (hready : Ready jobs w) {verify : Token → Option JwtPayload}
    (hverify : Verifies verify jobs) {schedule : List ι}
    {s : Threads ι World Exception (JobAnswer Token)}
    (hrun : exec Threads.step (started jobs w) schedule = some s)
    (hissued : Along Threads.step (BearerIssued verify jobs) (started jobs w) schedule) :
    Owned w s.store := by
  refine Threads.exec_kept (fun i hi => (jobs i).keepsOwners fun user huser => ?_)
    (owned_self hready.intact.consistent) hrun
  obtain ⟨row, first, hadmits⟩ := admits_of_user hready hverify hrun hissued hi huser
  exact hadmits.ownerOf hready.intact.consistent

/-- A server whose tokens are the claims themselves. -/
def signingApi (generateId : String) : ApiServer JwtPayload :=
  { (sampleApi generateId).toServer with
    eventBus := (sampleApi generateId).eventBus
    bcryptHash := (sampleApi generateId).bcryptHash
    bcryptCompare := (sampleApi generateId).bcryptCompare
    sign := fun claims _ => claims
    organizationTies := (sampleApi generateId).organizationTies }

/-- What the owner of `acme` is answered. -/
def ownerClaims : JwtPayload :=
  ⟨Pg.uuidOf 2, some "owner@acme.test", Pg.uuidOf 1, some "owner", .access⟩

/-- A registration, and a login of the owner of `acme` who then founds `beta`. -/
def foundingJobs : Fin 3 → Job JwtPayload
  | 0 => .serve (signingApi (Pg.uuidOf 4))
      (.register ⟨none, none⟩ ⟨"ada@acme.test", "correct horse", "Ada"⟩ none)
  | 1 => .serve (signingApi (Pg.uuidOf 5)) (.guarded {
      headers := ⟨none, none⟩
      token := some ownerClaims
      route := .createOrganization ⟨"Beta", "beta", none⟩
      invalid := none })
  | 2 => .serve (signingApi (Pg.uuidOf 6)) (.login ⟨none, none⟩ sampleLoginBody none)

theorem foundingJobs_ready : Ready foundingJobs sampleWorld := by
  have hsame : ∀ i, (foundingJobs i).generateId = (sampleJobs i).generateId
    | 0 => rfl
    | 1 => rfl
    | 2 => rfl
  refine ⟨sampleWorld_intact, fun i => hsame i ▸ sampleJobs_ready.unused i, fun i j hij => ?_⟩
  rw [hsame, hsame]
  exact sampleJobs_ready.apart i j hij

end Tokens

end Atlas
