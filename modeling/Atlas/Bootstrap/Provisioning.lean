import Atlas.Bootstrap.Slugify
import Atlas.Identity.Login
import Atlas.TenantCore.Lifecycle

/-!
# Atlas.Bootstrap.Provisioning

The bootstrap script, from the environment variables it reads to the outcome it
reports.

The user and the organization are each found or created.  `provisionAdminUser_ok`
and `provisionOrganization_ok` say what either step leaves, and the outcome of
a run is read off the two (`run_ok`).

The script reports an owner that is linked whatever it found.  It does link
one exactly where what it found was as it would have made it (`Suitable`).
-/

namespace Atlas

open StoreKit

namespace Bootstrap

/-! ## The configuration -/

/-- The environment variables. -/
structure Env where
  initialAdminEmail : Option String
  initialAdminPassword : Option String
  initialAdminName : Option String
  initialTenantName : Option String
  initialTenantSlug : Option String
  initialTenantPlan : Option String
  nodeEnv : Option String
  bootstrapAllowProd : Option String

/-- What they say; any text passes for a tier. -/
structure BootstrapConfig where
  adminEmail : String
  adminPassword : String
  adminName : String
  tenantName : String
  tenantSlug : String
  planTier : String
deriving DecidableEq

/-- The names of the variables that are unset or empty. -/
def unset (entries : List (String × Option String)) : List String :=
  (entries.filter fun (_, value) => (Js.truthy value).isNone).map Prod.fst

def readConfig (nfkd : String → String) (env : Env) : Except Exception BootstrapConfig :=
  let adminEmail := env.initialAdminEmail.map Js.trim
  let adminPassword := env.initialAdminPassword
  let adminName := env.initialAdminName.map Js.trim
  let tenantName := env.initialTenantName.map Js.trim
  match Js.truthy adminEmail, Js.truthy adminPassword, Js.truthy adminName,
    Js.truthy tenantName with
  | some adminEmail, some adminPassword, some adminName, some tenantName => .ok {
      adminEmail, adminPassword, adminName, tenantName
      tenantSlug := slugify nfkd env.initialTenantSlug tenantName
      planTier := env.initialTenantPlan.getD TenantPlanTier.ENTERPRISE.text }
  | _, _, _, _ =>
    let missing := ", ".intercalate (unset [("INITIAL_ADMIN_EMAIL", adminEmail),
      ("INITIAL_ADMIN_PASSWORD", adminPassword), ("INITIAL_ADMIN_NAME", adminName),
      ("INITIAL_TENANT_NAME", tenantName)])
    .error (.error (s!"[bootstrap] Missing required environment variables: {missing}. " ++
      "Copy .env.example to .env and fill them in, or export them in your shell."))

/-! ## The steps -/

/-- What the script is given where it asks for a random id or the clock: when it
creates the user and the organization, and when it marks the organization
provisioned. -/
structure Given where
  user : Runtime
  organization : Runtime
  provisioned : Runtime
  correlationId : String
  defaultProjectId : String
  provisionedCorrelationId : String

/-- An entity that was created, or was there. -/
structure Provisioned where
  id : String
  created : Bool
deriving DecidableEq

/-- The user that is stored: nobody verifies the address. -/
def adminUser (bcryptHash : String → String) (rt : Runtime) (cfg : BootstrapConfig) :
    Except Exception UserAggregate := do
  let user ← UserAggregate.create bcryptHash rt.generateId cfg.adminEmail cfg.adminPassword
    cfg.adminName
  user.activate rt.now

def provisionAdminUser (bcryptHash : String → String) (rt : Runtime) (cfg : BootstrapConfig) :
    App Provisioned := do
  let existing ← UserRepository.findByEmail cfg.adminEmail
  match existing with
  | some existing => return ⟨existing.userId, false⟩
  | none => do
      let user ← .lift (adminUser bcryptHash rt cfg)
      let saved ← UserRepository.save rt.savedAt user
      return ⟨saved.userId, true⟩

/-- `org.markProvisioned(...)` on a new organization. -/
def markProvisioned (given : Given) (org : OrganizationAggregate) :
    Except Exception OrganizationAggregate :=
  match (Organization.markProvisioned given.provisioned given.defaultProjectId
    given.provisionedCorrelationId).run org with
  | (.ok (), provisioned) => .ok provisioned
  | (.error e, _) => .error e

/-- The organization that is stored. -/
def adminOrganization (given : Given) (cfg : BootstrapConfig) (planTier : TenantPlanTier)
    (ownerId : String) : Except Exception OrganizationAggregate := do
  let org ← OrganizationAggregate.create given.organization cfg.tenantName cfg.tenantSlug planTier
    ownerId given.correlationId
  markProvisioned given org

/-- A text that is no tier is refused by the column, after the aggregate has
taken it. -/
def provisionOrganization (given : Given) (cfg : BootstrapConfig) (ownerId : String) :
    App Provisioned := do
  let existing ← OrganizationRepository.findBySlug cfg.tenantSlug
  match existing with
  | some existing => return ⟨existing.organizationId, false⟩
  | none =>
    match TenantPlanTier.ofText? cfg.planTier with
    | some planTier => do
        let org ← .lift (adminOrganization given cfg planTier ownerId)
        let saved ← OrganizationRepository.provision given.organization.savedAt org
        return ⟨saved.organizationId, true⟩
    | none => do
        let _ ← .lift (TenantSlug.create cfg.tenantSlug)
        .reject .database

structure BootstrapOutcome where
  organizationId : String
  organizationCreated : Bool
  userId : String
  userCreated : Bool
  ownerLinked : Bool
deriving DecidableEq

/-- The script does not run against production unless it is told to. -/
def guardProduction (env : Env) : App Unit :=
  if env.nodeEnv = some "production" ∧ env.bootstrapAllowProd ≠ some "true" then
    .reject (.error ("[bootstrap] Refusing to run with NODE_ENV=production. Set " ++
      "BOOTSTRAP_ALLOW_PROD=true to override (you almost certainly do not want this)."))
  else pure ()

def run (nfkd bcryptHash : String → String) (env : Env) (given : Given) : App BootstrapOutcome := do
  let cfg ← .lift (readConfig nfkd env)
  guardProduction env
  let userResult ← provisionAdminUser bcryptHash given.user cfg
  let orgResult ← provisionOrganization given cfg userResult.id
  return {
    organizationId := orgResult.id
    organizationCreated := orgResult.created
    userId := userResult.id
    userCreated := userResult.created
    ownerLinked := true }

/-! ## What the configuration says -/

/- The script trims and lower-cases what it reads, and the entities do so again.  What was
read is a fixed point of both, which is why a second run finds what the first one wrote. -/

/-- The address and the slug are in the form they are stored in, the case of the
address apart. -/
structure BootstrapConfig.Normal (cfg : BootstrapConfig) : Prop where
  email : Js.trim (Js.toLowerCase cfg.adminEmail) = Js.toLowerCase cfg.adminEmail
  slug : Js.trim (Js.toLowerCase cfg.tenantSlug) = cfg.tenantSlug

/-- **A configuration that is read is in this form**, however it was spelled. -/
theorem normal_of_readConfig {nfkd : String → String} {env : Env} {cfg : BootstrapConfig}
    (h : readConfig nfkd env = .ok cfg) : cfg.Normal := by
  unfold readConfig at h
  simp only at h
  split at h
  · next adminEmail adminPassword adminName tenantName hemail _ _ _ =>
      obtain ⟨spelled, -, htrim⟩ := Option.map_eq_some_iff.mp (Js.eq_of_truthy hemail)
      obtain rfl := Except.ok.inj h
      constructor
      · show Js.trim (Js.toLowerCase adminEmail) = Js.toLowerCase adminEmail
        rw [← htrim, Js.trim_toLowerCase_trim]
      · exact slugify_normal nfkd env.initialTenantSlug tenantName
  · cases h

/-! ## What is created -/

/-- The user is active, under the address of the configuration. -/
theorem adminUser_cases {bcryptHash : String → String} {rt : Runtime} {cfg : BootstrapConfig}
    {user : UserAggregate} (hcfg : cfg.Normal) (h : adminUser bcryptHash rt cfg = .ok user) :
    user.userId = rt.generateId ∧ user.email.value = Js.toLowerCase cfg.adminEmail ∧
      user.status = .active := by
  unfold adminUser at h
  cases hcreate : UserAggregate.create bcryptHash rt.generateId cfg.adminEmail cfg.adminPassword
      cfg.adminName with
  | error e =>
      rw [hcreate] at h
      cases h
  | ok created =>
      rw [hcreate] at h
      obtain ⟨hid, hemail⟩ := UserAggregate.create_cases hcreate
      obtain ⟨hid', hemail', hstatus⟩ := UserAggregate.activate_cases h
      refine ⟨hid'.trans hid, ?_, hstatus⟩
      rw [hemail', Email.value_of_create hemail, hcfg.email]

/-- What is marked provisioned is active, and otherwise what it was. -/
theorem markProvisioned_cases {given : Given} {org provisioned : OrganizationAggregate}
    (h : markProvisioned given org = .ok provisioned) :
    provisioned.organizationId = org.organizationId ∧ provisioned.slug = org.slug ∧
      provisioned.status = .ACTIVE ∧ provisioned.ownerId = org.ownerId := by
  rw [markProvisioned, Organization.markProvisioned_run] at h
  by_cases hstatus : org.status = .PROVISIONING
  · rw [if_pos hstatus] at h
    obtain rfl := Except.ok.inj h
    exact ⟨rfl, rfl, rfl, rfl⟩
  · rw [if_neg hstatus] at h
    cases h

/-- The organization is active, under the slug of the configuration, and belongs
to the user. -/
theorem adminOrganization_cases {given : Given} {cfg : BootstrapConfig}
    {planTier : TenantPlanTier} {ownerId : String} {org : OrganizationAggregate}
    (hcfg : cfg.Normal) (h : adminOrganization given cfg planTier ownerId = .ok org) :
    org.organizationId = given.organization.generateId ∧ org.slug.value = cfg.tenantSlug ∧
      org.status = .ACTIVE ∧ org.ownerId = ownerId := by
  unfold adminOrganization at h
  cases hcreate : OrganizationAggregate.create given.organization cfg.tenantName cfg.tenantSlug
      planTier ownerId given.correlationId with
  | error e =>
      rw [hcreate] at h
      cases h
  | ok created =>
      rw [hcreate] at h
      have hmark : markProvisioned given created = .ok org := h
      obtain ⟨hid, hsame, hstatus, howner⟩ := markProvisioned_cases hmark
      obtain ⟨slug, hslug, rfl⟩ := OrganizationAggregate.create_cases hcreate
      refine ⟨hid, ?_, hstatus, howner⟩
      rw [hsame, TenantSlug.value_of_create hslug, hcfg.slug]

/-! ## What is found or created -/

/- One inductive for each of the two entities, with the look-up that led to its case.  The
theorems on whole runs split on these and not on the script. -/

/-- The row of the user with the address of the configuration. -/
abbrev userOf (cfg : BootstrapConfig) (w : World) : Option UserOrmEntity :=
  AuthenticateHandler.userFor w cfg.adminEmail

/-- The row of the organization with the slug of the configuration. -/
def organizationOf (cfg : BootstrapConfig) (w : World) : Option OrganizationOrmEntity :=
  w.organizations.rows.find? fun row => row.slug = cfg.tenantSlug

/-- How the user is made ready: it is there, whatever its status, or it is
written. -/
inductive ReadyUser (bcryptHash : String → String) (rt : Runtime) (cfg : BootstrapConfig)
    (w : World) : Provisioned → World → Prop where
  | reused {row : UserOrmEntity} {user : UserAggregate} (hrow : userOf cfg w = some row)
      (hdomain : UserRepository.toDomain row = .ok user) :
      ReadyUser bcryptHash rt cfg w ⟨row.id, false⟩ w
  | created {user : UserAggregate} {row : UserOrmEntity} (hnone : userOf cfg w = none)
      (huser : adminUser bcryptHash rt cfg = .ok user)
      (hwrites : UserRepository.table.Writes rt.savedAt (UserRepository.toOrm user) w row) :
      ReadyUser bcryptHash rt cfg w ⟨user.userId, true⟩ { w with users := w.users.put row }

theorem provisionAdminUser_ok {bcryptHash : String → String} {rt : Runtime}
    {cfg : BootstrapConfig} {w w₁ : World} {result : Provisioned}
    (h : (provisionAdminUser bcryptHash rt cfg).run w = (.ok result, w₁)) :
    ReadyUser bcryptHash rt cfg w result w₁ := by
  rcases AuthenticateHandler.findByEmail_cases cfg.adminEmail w with
    ⟨e, hrun⟩ | ⟨hrun, hnone⟩ | ⟨row, user, hrun, hrow, hdomain⟩
  · rw [provisionAdminUser, Program.bind_run_error hrun] at h
    cases h
  · rw [provisionAdminUser, Program.bind_run_ok hrun] at h
    obtain ⟨user, w₂, hlift, hsave⟩ := Program.bind_run_eq_ok h
    obtain ⟨huser, rfl⟩ := lift_ok hlift
    rcases UserRepository.save_cases rt.savedAt user w₂ with ⟨e, hsaved⟩ | ⟨row, hsaved, hwrites⟩
    · rw [Program.bind_run_error hsaved] at hsave
      cases hsave
    · rw [Program.bind_run_ok hsaved] at hsave
      cases hsave
      exact .created hnone huser hwrites
  · rw [provisionAdminUser, Program.bind_run_ok hrun] at h
    obtain ⟨-, hid, -⟩ := UserRepository.toDomain_cases hdomain
    cases h
    rw [hid]
    exact .reused hrow hdomain

/-- How the organization is made ready, for the id of a user. -/
inductive ReadyOrganization (given : Given) (cfg : BootstrapConfig) (ownerId : String)
    (w : World) : Provisioned → World → Prop where
  | reused {row : OrganizationOrmEntity} {org : OrganizationAggregate}
      (hrow : organizationOf cfg w = some row) (hdomain : OrganizationMapper.toDomain row = .ok org) :
      ReadyOrganization given cfg ownerId w ⟨row.id, false⟩ w
  | created {planTier : TenantPlanTier} {org saved : OrganizationAggregate} {w' : World}
      (hnone : organizationOf cfg w = none)
      (horg : adminOrganization given cfg planTier ownerId = .ok org)
      (hsaved : (OrganizationRepository.provision given.organization.savedAt org).run w =
        (.ok saved, w')) :
      ReadyOrganization given cfg ownerId w ⟨saved.organizationId, true⟩ w'

/-- Where the organization step answers, the row of the slug is reused, or there
is none and the organization is created. -/
theorem provisionOrganization_ok {given : Given} {cfg : BootstrapConfig} {ownerId : String}
    {w w₁ : World} {result : Provisioned}
    (h : (provisionOrganization given cfg ownerId).run w = (.ok result, w₁)) :
    ReadyOrganization given cfg ownerId w result w₁ := by
  rcases OrganizationRepository.findBySlug_cases cfg.tenantSlug w with
    ⟨e, hrun⟩ | ⟨hrun, hnone⟩ | ⟨row, org, hrun, hrow, hdomain⟩
  · rw [provisionOrganization, Program.bind_run_error hrun] at h
    cases h
  · rw [provisionOrganization, Program.bind_run_ok hrun] at h
    simp only at h
    split at h
    · obtain ⟨org, w₂, hlift, hprovision⟩ := Program.bind_run_eq_ok h
      obtain ⟨horg, rfl⟩ := lift_ok hlift
      obtain ⟨saved, w₃, hsaved, hreturn⟩ := Program.bind_run_eq_ok hprovision
      cases hreturn
      exact .created hnone horg hsaved
    · obtain ⟨slug, w₂, -, hreject⟩ := Program.bind_run_eq_ok h
      cases hreject
  · rw [provisionOrganization, Program.bind_run_ok hrun] at h
    obtain ⟨-, hid, -⟩ := OrganizationMapper.toDomain_cases hdomain
    cases h
    rw [hid]
    exact .reused hrow hdomain

theorem guardProduction_ok {env : Env} {w w' : World}
    (h : (guardProduction env).run w = (.ok (), w')) :
    w' = w ∧ ∀ v, (guardProduction env).run v = (.ok (), v) := by
  unfold guardProduction at h ⊢
  split at h
  · cases h
  · next hallowed =>
      cases h
      rw [if_neg hallowed]
      exact ⟨rfl, fun _ => rfl⟩

/-- A run that resolves has read its configuration, and both steps have
resolved. -/
theorem run_ok {nfkd bcryptHash : String → String} {env : Env} {given : Given} {w w' : World}
    {outcome : BootstrapOutcome}
    (h : (run nfkd bcryptHash env given).run w = (.ok outcome, w')) :
    ∃ cfg user org w₁, readConfig nfkd env = .ok cfg ∧
      (∀ v, (guardProduction env).run v = (.ok (), v)) ∧
      (provisionAdminUser bcryptHash given.user cfg).run w = (.ok user, w₁) ∧
      (provisionOrganization given cfg user.id).run w₁ = (.ok org, w') ∧
      outcome = ⟨org.id, org.created, user.id, user.created, true⟩ := by
  obtain ⟨cfg, w₁, hlift, hguard⟩ := Program.bind_run_eq_ok h
  obtain ⟨hcfg, rfl⟩ := lift_ok hlift
  obtain ⟨⟨⟩, w₂, hallowed, hrest⟩ := Program.bind_run_eq_ok hguard
  obtain ⟨rfl, hpasses⟩ := guardProduction_ok hallowed
  obtain ⟨user, w₃, huser, hnext⟩ := Program.bind_run_eq_ok hrest
  obtain ⟨org, w₄, horg, hreturn⟩ := Program.bind_run_eq_ok hnext
  cases hreturn
  exact ⟨cfg, user, org, w₃, hcfg, hpasses, huser, horg, rfl⟩

/-! ## What is there afterwards -/

/-- The user that was found is the one that is there; or a new one is, which is
active. -/
theorem ReadyUser.after {bcryptHash : String → String} {rt : Runtime} {cfg : BootstrapConfig}
    {w w₁ : World} {result : Provisioned} (hcfg : cfg.Normal)
    (h : ReadyUser bcryptHash rt cfg w result w₁) :
    w₁.organizations = w.organizations ∧
      ∃ row user, userOf cfg w₁ = some row ∧ UserRepository.toDomain row = .ok user ∧
        ((userOf cfg w = some row ∧ result.id = row.id) ∨
          (userOf cfg w = none ∧ row.status = .active ∧ result.id = rt.generateId ∧
            Pg.uuid rt.generateId = some row.id)) := by
  cases h with
  | reused hrow hdomain => exact ⟨rfl, _, _, hrow, hdomain, .inl ⟨hrow, rfl⟩⟩
  | @created user row hnone huser hwrites =>
      obtain ⟨hid, hemail, hstatus⟩ := adminUser_cases hcfg huser
      have haddress := UserRepository.email_of_writes hwrites
      have hcreate : Email.create row.email = .ok user.email := by
        rw [haddress]
        exact user.email.create_value
      have hkey : row.email = Js.toLowerCase cfg.adminEmail := haddress.trans hemail
      have huuid : Pg.uuid user.userId = some row.id :=
        hwrites.uuids UserOrmEntity.id List.mem_cons_self
      rw [hid] at huuid
      have hfound : userOf cfg { w with users := w.users.put row } = some row :=
        Table.find?_put_of_none hnone (decide_eq_true hkey)
      have hactive : row.status = .active := by
        obtain ⟨stored, hstored, hmerged⟩ := hwrites.merged
        have hsame := (UserOrmEntity.storedAs hstored).status
        rcases hmerged with ⟨-, rfl⟩ | ⟨old, -, rfl⟩
        · exact hsame.trans hstatus
        · exact hsame.trans hstatus
      have hdomain : ∃ built, UserRepository.toDomain row = .ok built := by
        rw [UserRepository.toDomain, hcreate]
        exact ⟨_, rfl⟩
      obtain ⟨built, hbuilt⟩ := hdomain
      exact ⟨rfl, row, built, hfound, hbuilt, .inr ⟨hnone, hactive, hid, huuid⟩⟩

/-- The organization that was found is the one that is there; or a new one is,
which is active and belongs to the user. -/
theorem ReadyOrganization.after {given : Given} {cfg : BootstrapConfig} {ownerId : String}
    {w w₁ : World} {result : Provisioned} (hcfg : cfg.Normal)
    (h : ReadyOrganization given cfg ownerId w result w₁) :
    w₁.users = w.users ∧
      ∃ row org, organizationOf cfg w₁ = some row ∧ OrganizationMapper.toDomain row = .ok org ∧
        ((organizationOf cfg w = some row ∧ result.id = row.id) ∨
          (organizationOf cfg w = none ∧ row.status = .ACTIVE ∧
            Pg.uuid ownerId = some row.ownerId ∧ result.id = given.organization.generateId ∧
            Pg.uuid given.organization.generateId = some row.id)) := by
  cases h with
  | reused hrow hdomain => exact ⟨rfl, _, _, hrow, hdomain, .inl ⟨hrow, rfl⟩⟩
  | @created planTier org saved w' hnone horg hsaved =>
      obtain ⟨hid, hslug, hstatus, howner⟩ := adminOrganization_cases hcfg horg
      obtain ⟨hanswer, row, rfl, huuid, hrow, hactive, hbelongs⟩ :=
        OrganizationRepository.provision_writes hsaved
      obtain ⟨domain, hdomain, -⟩ := OrganizationMapper.toDomain_of_slug row org.slug hrow
      have hfound : organizationOf cfg { w with organizations := w.organizations.put row } =
          some row :=
        Table.find?_put_of_none hnone (decide_eq_true (hrow.trans hslug))
      rw [hid] at hanswer huuid
      rw [howner] at hbelongs
      exact ⟨rfl, row, domain, hfound, hdomain,
        .inr ⟨hnone, hactive.trans hstatus, hbelongs, hanswer, huuid⟩⟩

/-- The two steps leave a consistent database. -/
theorem ReadyUser.consistent {bcryptHash : String → String} {rt : Runtime}
    {cfg : BootstrapConfig} {w w₁ : World} {result : Provisioned} (hw : w.Consistent)
    (h : ReadyUser bcryptHash rt cfg w result w₁) : w₁.Consistent := by
  cases h with
  | reused => exact hw
  | created hnone huser hwrites => exact UserRepository.consistent_put hw hwrites

theorem ReadyOrganization.consistent {given : Given} {cfg : BootstrapConfig} {ownerId : String}
    {w w₁ : World} {result : Provisioned} (hw : w.Consistent)
    (h : ReadyOrganization given cfg ownerId w result w₁) : w₁.Consistent := by
  cases h with
  | reused => exact hw
  | created hnone horg hsaved =>
      obtain ⟨orm, w₂, hsave, hlift⟩ := Program.bind_run_eq_ok hsaved
      obtain ⟨rfl, table, htable, rfl⟩ := OrganizationRepository.saveOrm_ok hsave
      obtain ⟨-, rfl⟩ := lift_ok hlift
      exact OrganizationRepository.consistent_save hw htable

/-! ## The owner that is linked -/

/- The outcome reports a link without a look at the organization that was there.  So the
theorem says when the report is true: when what was found is as the script would have made
it. -/

/-- The id of the user that the organization is to belong to. -/
def intendedOwner (given : Given) (cfg : BootstrapConfig) (w : World) : Option String :=
  match userOf cfg w with
  | some row => some row.id
  | none => Pg.uuid given.user.generateId

/-- The user and the organization of the configuration: both are active, and one
owns the other. -/
structure OwnerLinked (cfg : BootstrapConfig) (w : World) (row : UserOrmEntity)
    (org : OrganizationOrmEntity) : Prop where
  user : userOf cfg w = some row
  active : row.status = .active
  organization : organizationOf cfg w = some org
  tenant : org.status = .ACTIVE
  owner : org.ownerId = row.id

/-- A login with the address, the slug and the password is let in to the
organization. -/
def LogsIn (cfg : BootstrapConfig) (w : World) (row : UserOrmEntity)
    (org : OrganizationOrmEntity) : Prop :=
  ∀ (Token : Type) (bcryptCompare : String → String → Bool) (sign : JwtPayload → String → Token)
    (ties : Typeorm.Arrangement OrganizationOrmEntity) (rt : Runtime)
    (command : AuthenticateCommand), command.email = cfg.adminEmail →
    command.organizationSlug = some cfg.tenantSlug →
    bcryptCompare command.password row.passwordHash = true →
    Pg.timestamptz rt.now = some rt.now →
    ∃ pair w', (AuthenticateHandler.execute bcryptCompare sign ties rt command).run w =
      (.ok (.ok pair), w') ∧ pair.tenantId = org.id

/-- What the script found is as it would have made it. -/
structure Suitable (given : Given) (cfg : BootstrapConfig) (w : World) : Prop where
  user : ∀ row, userOf cfg w = some row → row.status = .active
  organization : ∀ org, organizationOf cfg w = some org →
    org.status = .ACTIVE ∧ intendedOwner given cfg w = some org.ownerId

theorem OwnerLinked.logsIn {cfg : BootstrapConfig} {w : World} {row : UserOrmEntity}
    {org : OrganizationOrmEntity} (h : OwnerLinked cfg w row org) (hw : w.Consistent) :
    LogsIn cfg w row org := by
  intro Token bcryptCompare sign ties rt command hemail hgiven hpassword hclock
  have hkey : org.slug = cfg.tenantSlug := by simpa using List.find?_some h.organization
  obtain ⟨slug, hslug⟩ := (hw.organizations org (List.mem_of_find?_eq_some h.organization)).slug
  have hne : cfg.tenantSlug ≠ "" := by
    intro hempty
    have hpattern := slug.pattern
    rw [← hslug, hkey, hempty] at hpattern
    cases hpattern
  have horg : AuthenticateHandler.organizationFor ties w row.id (some cfg.tenantSlug) =
      some org := by
    have htruthy : Js.truthy (some cfg.tenantSlug) = some cfg.tenantSlug :=
      Js.truthy_of_ne fun he => hne (Option.some.inj he)
    simp only [AuthenticateHandler.organizationFor, htruthy]
    exact h.organization
  have huser : AuthenticateHandler.userFor w command.email = some row := by
    rw [hemail]
    exact h.user
  obtain ⟨pair, w', hrun, htenant, -⟩ := AuthenticateHandler.login_with_slug bcryptCompare sign
    ties rt command hw hclock hgiven hne huser h.active hpassword horg h.owner h.tenant
  exact ⟨pair, w', hrun, htenant⟩

/-- The user that is there is the one the organization is to belong to. -/
theorem intendedOwner_eq {given : Given} {cfg : BootstrapConfig} {w : World}
    {row : UserOrmEntity} {id : String} (hrows : ∀ row ∈ w.users.rows, row.Columns)
    (h : (userOf cfg w = some row ∧ id = row.id) ∨
      (userOf cfg w = none ∧ row.status = .active ∧ id = given.user.generateId ∧
        Pg.uuid given.user.generateId = some row.id)) :
    intendedOwner given cfg w = some row.id ∧ Pg.uuid id = some row.id := by
  rcases h with ⟨hrow, rfl⟩ | ⟨hnone, -, rfl, huuid⟩
  · rw [intendedOwner, hrow]
    exact ⟨rfl, (hrows row (List.mem_of_find?_eq_some hrow)).id⟩
  · rw [intendedOwner, hnone]
    exact ⟨huuid, huuid⟩

/-- **The owner that a run reports as linked is linked exactly where what it
found was suitable.** -/
theorem owner_linked_iff {nfkd bcryptHash : String → String} {env : Env} {given : Given}
    {cfg : BootstrapConfig} {w w' : World} {outcome : BootstrapOutcome}
    (hrows : ∀ row ∈ w.users.rows, row.Columns) (hread : readConfig nfkd env = .ok cfg)
    (hrun : (run nfkd bcryptHash env given).run w = (.ok outcome, w')) :
    (outcome.ownerLinked = true → ∃ row org, OwnerLinked cfg w' row org ∧
      (w.Consistent → LogsIn cfg w' row org)) ↔ Suitable given cfg w := by
  obtain ⟨cfg', user, created, w₁, hread', -, hfirst, hsecond, rfl⟩ := run_ok hrun
  have huser := provisionAdminUser_ok hfirst
  have horganization := provisionOrganization_ok hsecond
  obtain rfl := Except.ok.inj (hread.symm.trans hread')
  have hcfg := normal_of_readConfig hread
  obtain ⟨hsame, row, _, hrow, -, hfrom⟩ := huser.after hcfg
  obtain ⟨hsame', org, _, horg, -, horgFrom⟩ := horganization.after hcfg
  obtain ⟨hintended, huuid⟩ := intendedOwner_eq hrows hfrom
  have hrow' : userOf cfg w' = some row := by
    rw [userOf, AuthenticateHandler.userFor, hsame']
    exact hrow
  have hbefore : organizationOf cfg w₁ = organizationOf cfg w := by
    rw [organizationOf, organizationOf, hsame]
  rw [hbefore] at horgFrom
  constructor
  · intro hlinked
    obtain ⟨row', org', h, -⟩ := hlinked rfl
    obtain rfl := Option.some.inj (hrow'.symm.trans h.user)
    obtain rfl := Option.some.inj (horg.symm.trans h.organization)
    constructor
    · intro found hfound
      rcases hfrom with ⟨hsome, -⟩ | ⟨hnone, -⟩
      · rw [← Option.some.inj (hsome.symm.trans hfound)]
        exact h.active
      · rw [hnone] at hfound
        cases hfound
    · intro found hfound
      rcases horgFrom with ⟨hsome, -⟩ | ⟨hnone, -⟩
      · rw [← Option.some.inj (hsome.symm.trans hfound), hintended, h.owner]
        exact ⟨h.tenant, rfl⟩
      · rw [hnone] at hfound
        cases hfound
  · intro hsuitable _
    have hactive : row.status = .active := by
      rcases hfrom with ⟨hsome, -⟩ | ⟨-, hactive, -⟩
      · exact hsuitable.user row hsome
      · exact hactive
    have htenant : org.status = .ACTIVE ∧ org.ownerId = row.id := by
      rcases horgFrom with ⟨hsome, -⟩ | ⟨-, hstatus, howner, -⟩
      · obtain ⟨hstatus, howner⟩ := hsuitable.organization org hsome
        exact ⟨hstatus, Option.some.inj (howner.symm.trans hintended)⟩
      · exact ⟨hstatus, Option.some.inj (howner.symm.trans huuid)⟩
    have hlinked : OwnerLinked cfg w' row org := ⟨hrow', hactive, horg, htenant.1, htenant.2⟩
    exact ⟨row, org, hlinked,
      fun hw => hlinked.logsIn (horganization.consistent (huser.consistent hw))⟩

/-- The owner of `acme` is to be `admin@acme.test`. -/
def sampleEnv : Env where
  initialAdminEmail := some " Admin@Acme.test"
  initialAdminPassword := some "correct horse"
  initialAdminName := some "Admin"
  initialTenantName := some "Acme"
  initialTenantSlug := none
  initialTenantPlan := none
  nodeEnv := some "development"
  bootstrapAllowProd := none

def sampleConfig : BootstrapConfig :=
  ⟨"Admin@Acme.test", "correct horse", "Admin", "Acme", "acme", "enterprise"⟩

def sampleGiven : Given where
  user := sampleRuntime
  organization := { sampleRuntime with generateId := Pg.uuidOf 9, eventId := Pg.uuidOf 12 }
  provisioned := { sampleRuntime with eventId := Pg.uuidOf 13 }
  correlationId := Pg.uuidOf 11
  defaultProjectId := Pg.uuidOf 14
  provisionedCorrelationId := Pg.uuidOf 15

/-- What `bcrypt` makes of the password. -/
def sampleHash (_ : String) : String := "$2b$12$abcdefghijklmnopqrstuv"

/-- The name is its own decomposition. -/
theorem readConfig_sample : readConfig id sampleEnv = .ok sampleConfig := by
  decide +kernel

theorem run_sample : ∃ w', (run id sampleHash sampleEnv sampleGiven).run emptyWorld =
    (.ok ⟨Pg.uuidOf 9, true, Pg.uuidOf 8, true, true⟩, w') := by
  have hanswer : ((run id sampleHash sampleEnv sampleGiven).run emptyWorld).1 =
      .ok ⟨Pg.uuidOf 9, true, Pg.uuidOf 8, true, true⟩ := by
    decide +kernel
  generalize (run id sampleHash sampleEnv sampleGiven).run emptyWorld = result at hanswer ⊢
  exact ⟨result.2, Prod.ext hanswer rfl⟩

/-- In a database without users and organizations, both are created and linked. -/
theorem owner_linked_fresh : ∃ outcome w' row org,
    (run id sampleHash sampleEnv sampleGiven).run emptyWorld = (.ok outcome, w') ∧
      OwnerLinked sampleConfig w' row org := by
  obtain ⟨w', hrun⟩ := run_sample
  have hsuitable : Suitable sampleGiven sampleConfig emptyWorld :=
    ⟨fun _ h => (nomatch h), fun _ h => (nomatch h)⟩
  have hrows : ∀ row ∈ emptyWorld.users.rows, row.Columns := fun _ h => nomatch h
  obtain ⟨row, org, hlinked, -⟩ :=
    (owner_linked_iff hrows readConfig_sample hrun).mpr hsuitable rfl
  exact ⟨_, _, row, org, hrun, hlinked⟩

/-- Where `acme` has another owner already, the run reports a link that is not
there. -/
theorem another_owner_reported :
    ¬ ∀ (nfkd bcryptHash : String → String) (env : Env) (given : Given) (cfg : BootstrapConfig)
      (w w' : World) (outcome : BootstrapOutcome), w.Consistent →
      readConfig nfkd env = .ok cfg → (run nfkd bcryptHash env given).run w = (.ok outcome, w') →
      outcome.ownerLinked = true → ∃ row org, OwnerLinked cfg w' row org := by
  intro hclaim
  have hended : ((run id sampleHash sampleEnv sampleGiven).run sampleWorld).1 =
        .ok ⟨Pg.uuidOf 1, false, Pg.uuidOf 8, true, true⟩ ∧
      (organizationOf sampleConfig
        ((run id sampleHash sampleEnv sampleGiven).run sampleWorld).2).map (·.ownerId) =
        some (Pg.uuidOf 2) ∧
      (userOf sampleConfig
        ((run id sampleHash sampleEnv sampleGiven).run sampleWorld).2).map (·.id) =
        some (Pg.uuidOf 8) := by
    decide +kernel
  have hlinked := hclaim id sampleHash sampleEnv sampleGiven sampleConfig sampleWorld
  generalize (run id sampleHash sampleEnv sampleGiven).run sampleWorld = result at hended hlinked
  obtain ⟨hanswer, howner, huser⟩ := hended
  obtain ⟨row, org, h⟩ := hlinked result.2 _ AuthenticateHandler.sampleWorld_consistent
    readConfig_sample (Prod.ext hanswer rfl) rfl
  rw [h.organization] at howner
  rw [h.user] at huser
  have hids : Pg.uuidOf 2 = Pg.uuidOf 8 :=
    (Option.some.inj howner).symm.trans (h.owner.trans (Option.some.inj huser))
  revert hids
  decide +kernel

/-! ## Running it again -/

/- The look-ups of the second run are by the address and the slug of the configuration,
and the rows that the first run wrote or found answer to them. -/

/-- A lookup that answered has a key the server takes as a text. -/
theorem text_of_lookup {α : Type} {key : String} {next : String → App α} {a : α} {w w' : World}
    (h : (written (Pg.text key) >>= next).run w = (.ok a, w')) : Pg.text key = some key := by
  obtain ⟨sent, w₁, hsent, -⟩ := Program.bind_run_eq_ok h
  obtain ⟨htext, -⟩ := written_ok hsent
  rw [htext, Pg.text_eq htext]

/-- Where the step resolved once, it finds the user in any database that has it. -/
theorem provisionAdminUser_again {bcryptHash bcryptHash' : String → String} {rt rt' : Runtime}
    {cfg : BootstrapConfig} {w w₁ v : World} {result : Provisioned} {row : UserOrmEntity}
    {user : UserAggregate} (h : (provisionAdminUser bcryptHash rt cfg).run w = (.ok result, w₁))
    (hrow : userOf cfg v = some row) (hdomain : UserRepository.toDomain row = .ok user) :
    (provisionAdminUser bcryptHash' rt' cfg).run v = (.ok ⟨row.id, false⟩, v) := by
  rw [provisionAdminUser] at h
  obtain ⟨existing, w₂, hlookup, -⟩ := Program.bind_run_eq_ok h
  rw [UserRepository.findByEmail] at hlookup
  have hfind : (UserRepository.findByEmail cfg.adminEmail).run v = (.ok (some user), v) := by
    rw [UserRepository.findByEmail]
    exact textLookup_run (text_of_lookup hlookup) hrow hdomain
  obtain ⟨-, hid, -⟩ := UserRepository.toDomain_cases hdomain
  rw [provisionAdminUser, Program.bind_run_ok hfind, ← hid]
  rfl

theorem provisionOrganization_again {given given' : Given} {cfg : BootstrapConfig}
    {ownerId ownerId' : String} {w w₁ v : World} {result : Provisioned}
    {row : OrganizationOrmEntity} {org : OrganizationAggregate}
    (h : (provisionOrganization given cfg ownerId).run w = (.ok result, w₁))
    (hrow : organizationOf cfg v = some row) (hdomain : OrganizationMapper.toDomain row = .ok org) :
    (provisionOrganization given' cfg ownerId').run v = (.ok ⟨row.id, false⟩, v) := by
  rw [provisionOrganization] at h
  obtain ⟨existing, w₂, hlookup, -⟩ := Program.bind_run_eq_ok h
  rw [OrganizationRepository.findBySlug] at hlookup
  have hfind : (OrganizationRepository.findBySlug cfg.tenantSlug).run v = (.ok (some org), v) :=
    OrganizationRepository.findBySlug_run (text_of_lookup hlookup) hrow hdomain
  obtain ⟨-, hid, -⟩ := OrganizationMapper.toDomain_cases hdomain
  rw [provisionOrganization, Program.bind_run_ok hfind, ← hid]
  rfl

/-- **A run that is repeated finds what the first one left**: it resolves, writes
nothing, and reports the same two ids as reused. -/
theorem rerun_reuses {nfkd bcryptHash bcryptHash' : String → String} {env : Env}
    {given given' : Given} {w w' : World} {outcome : BootstrapOutcome}
    (huserId : Pg.uuid given.user.generateId = some given.user.generateId)
    (horgId : Pg.uuid given.organization.generateId = some given.organization.generateId)
    (hrun : (run nfkd bcryptHash env given).run w = (.ok outcome, w')) :
    (run nfkd bcryptHash' env given').run w' =
      (.ok { outcome with organizationCreated := false, userCreated := false }, w') := by
  obtain ⟨cfg, user, created, w₁, hread, hpasses, hfirst, hsecond, rfl⟩ := run_ok hrun
  have hcfg := normal_of_readConfig hread
  obtain ⟨-, row, domain, hrow, hdomain, hfrom⟩ := (provisionAdminUser_ok hfirst).after hcfg
  obtain ⟨hsame, org, orgDomain, horg, horgDomain, horgFrom⟩ :=
    (provisionOrganization_ok hsecond).after hcfg
  have hrow' : userOf cfg w' = some row := by
    rw [userOf, AuthenticateHandler.userFor, hsame]
    exact hrow
  have hid : user.id = row.id := by
    rcases hfrom with ⟨-, hid⟩ | ⟨-, -, hid, huuid⟩
    · exact hid
    · exact hid.trans (Option.some.inj (huserId.symm.trans huuid))
  have hid' : created.id = org.id := by
    rcases horgFrom with ⟨-, hid⟩ | ⟨-, -, -, hid, huuid⟩
    · exact hid
    · exact hid.trans (Option.some.inj (horgId.symm.trans huuid))
  have hlift : (Program.lift (readConfig nfkd env) : App _).run w' = (.ok cfg, w') := by
    rw [hread]
    rfl
  rw [run, Program.bind_run_ok hlift, Program.bind_run_ok (hpasses w'),
    Program.bind_run_ok (provisionAdminUser_again hfirst hrow' hdomain),
    Program.bind_run_ok (provisionOrganization_again hsecond horg horgDomain), hid, hid']
  rfl

theorem rerun_reuses_fresh : ∃ w',
    (run id sampleHash sampleEnv sampleGiven).run emptyWorld =
      (.ok ⟨Pg.uuidOf 9, true, Pg.uuidOf 8, true, true⟩, w') ∧
    (run id sampleHash sampleEnv sampleGiven).run w' =
      (.ok ⟨Pg.uuidOf 9, false, Pg.uuidOf 8, false, true⟩, w') := by
  obtain ⟨w', hrun⟩ := run_sample
  exact ⟨w', hrun, rerun_reuses (Pg.uuid_uuidOf 8) (Pg.uuid_uuidOf 9) hrun⟩

end Bootstrap

end Atlas
