import Atlas.Kernel
import Atlas.Pg

/-!
# Atlas.TenantCore.Organization

The organization: its value objects, the aggregate with the events it records,
the row and the mapper between the two.

A slug carries the proof that it is in normal form, so an aggregate has no
other; the row has any string, and `toDomain` parses it again.
-/

namespace Atlas

open StoreKit

/-! ## Value objects -/

/-- `[a-z0-9]`. -/
def isSlugEnd (c : Char) : Bool := ('a' ≤ c && c ≤ 'z') || ('0' ≤ c && c ≤ '9')

/-- `TenantSlug.PATTERN`: `/^[a-z0-9][a-z0-9-]{1,61}[a-z0-9]$/`. -/
def slugPattern (s : String) : Bool :=
  match s.toList, s.toList.getLast? with
  | first :: rest, some last =>
      3 ≤ s.length && s.length ≤ 63 && isSlugEnd first && isSlugEnd last &&
        rest.all fun c => isSlugEnd c || c == '-'
  | _, _ => false

structure TenantSlug where
  value : String
  pattern : slugPattern value = true
deriving DecidableEq

namespace TenantSlug

def create (value : String) : Except Exception TenantSlug :=
  let normalized := Js.trim (Js.toLowerCase value)
  if h : slugPattern normalized = true then .ok ⟨normalized, h⟩
  else .error (.validation [("slug", ["Slug must be 3-63 lowercase alphanumeric characters or " ++
    "hyphens, not starting or ending with a hyphen"])])

end TenantSlug

/-- Neither lower-casing nor trimming changes a character of a slug. -/
theorem slug_char {c : Char} (h : (isSlugEnd c || c == '-') = true) :
    LowerCase.lower c = [c] ∧ Js.isWhiteSpace c = false := by
  have hascii : ∀ n < 123, (isSlugEnd (Char.ofNat n) || Char.ofNat n == '-') = true →
      LowerCase.lower (Char.ofNat n) = [Char.ofNat n] ∧
        Js.isWhiteSpace (Char.ofNat n) = false := by
    decide +kernel
  have hlt : c.toNat < 123 := by
    simp only [isSlugEnd, Bool.or_eq_true, Bool.and_eq_true, decide_eq_true_eq, beq_iff_eq] at h
    rcases h with (⟨-, hz⟩ | ⟨-, h9⟩) | rfl
    · exact Nat.lt_succ_of_le hz
    · exact Nat.lt_of_le_of_lt h9 (by decide)
    · decide
  have hc : Char.ofNat c.toNat = c := Char.ofNat_toNat c
  have hcase := hascii c.toNat hlt
  rw [hc] at hcase
  exact hcase h

theorem slugPattern_chars {s : String} (h : slugPattern s = true) :
    ∀ c ∈ s.toList, (isSlugEnd c || c == '-') = true := by
  unfold slugPattern at h
  split at h
  · next first rest last hs _ =>
      simp only [Bool.and_eq_true, List.all_eq_true] at h
      obtain ⟨⟨⟨-, hfirst⟩, -⟩, hrest⟩ := h
      intro c hc
      rw [hs] at hc
      rcases List.mem_cons.mp hc with rfl | hc
      · simp [hfirst]
      · exact hrest c hc
  · contradiction

theorem slug_short {s : String} (h : slugPattern s = true) : s.length ≤ 63 := by
  unfold slugPattern at h
  split at h
  · simp only [Bool.and_eq_true, decide_eq_true_eq] at h
    omega
  · contradiction

/-- **A slug is its own normal form.** -/
theorem TenantSlug.create_value (slug : TenantSlug) : TenantSlug.create slug.value = .ok slug := by
  have hchars := slugPattern_chars slug.pattern
  have hlower : Js.toLowerCase slug.value = slug.value :=
    Js.toLowerCase_eq fun c hc => (slug_char (hchars c hc)).1
  have htrim : Js.trim slug.value = slug.value :=
    Js.trim_eq fun c hc => (slug_char (hchars c hc)).2
  simp only [TenantSlug.create, hlower, htrim, slug.pattern, dite_true]

/-- A slug is stored in lower case and trimmed. -/
theorem TenantSlug.value_of_create {value : String} {slug : TenantSlug}
    (h : create value = .ok slug) : slug.value = Js.trim (Js.toLowerCase value) := by
  simp only [create] at h
  split at h
  · rw [← Except.ok.inj h]
  · cases h

structure TenantPlan where
  tier : TenantPlanTier
  maxProjects : Nat
  maxMembers : Nat
  maxApiKeys : Nat
  auditRetentionDays : Nat
deriving DecidableEq

/-- The limits of `PLAN_DEFAULTS`. -/
def TenantPlan.forTier : TenantPlanTier → TenantPlan
  | .FREE => ⟨.FREE, 1, 3, 2, 30⟩
  | .STARTER => ⟨.STARTER, 5, 10, 10, 90⟩
  | .PRO => ⟨.PRO, 25, 50, 50, 365⟩
  | .ENTERPRISE => ⟨.ENTERPRISE, 1000, 10000, 1000, 2555⟩

@[simp] theorem TenantPlan.tier_forTier (tier : TenantPlanTier) :
    (TenantPlan.forTier tier).tier = tier := by
  cases tier <;> rfl

/-! ## The aggregate -/

structure OrganizationAggregate where
  organizationId : String
  name : String
  slug : TenantSlug
  plan : TenantPlan
  status : TenantStatus
  ownerId : String
  provisionedAt : Option Js.Date
  settings : JsonObject
  createdAt : Js.Date
  updatedAt : Js.Date
  domainEvents : List DomainEvent := []
deriving DecidableEq

namespace OrganizationAggregate

/-- The settings of a new organization. -/
def defaultSettings : JsonObject :=
  [("allowPublicSignup", .bool false), ("enforcesMfa", .bool false), ("ssoEnabled", .bool false),
   ("auditEnabled", .bool true)]

/-- `new TenantCreatedDomainEvent(...)`. -/
def tenantCreated (rt : Runtime) (name slug : String) (planTier : TenantPlanTier)
    (ownerId correlationId : String) : DomainEvent where
  eventId := rt.eventId
  eventType := "TenantCreatedDomainEvent"
  tenantId := rt.generateId
  correlationId := correlationId
  actorId := some ownerId
  occurredAt := rt.occurredAt
  payload := [("organizationId", .str rt.generateId), ("name", .str name), ("slug", .str slug),
    ("plan", .str planTier.text), ("ownerId", .str ownerId)]

def create (rt : Runtime) (name slug : String) (planTier : TenantPlanTier)
    (ownerId correlationId : String) : Except Exception OrganizationAggregate := do
  let slug ← TenantSlug.create slug
  return {
    organizationId := rt.generateId
    name, slug, ownerId
    plan := .forTier planTier
    status := .PROVISIONING
    provisionedAt := none
    settings := defaultSettings
    createdAt := rt.now
    updatedAt := rt.touchedAt
    domainEvents := [tenantCreated rt name slug.value planTier ownerId correlationId] }

/-- `new TenantSuspendedDomainEvent(...)`. -/
def tenantSuspended (rt : Runtime) (org : OrganizationAggregate) (suspendedAt : Js.Date)
    (reason suspendedBy correlationId : String) : DomainEvent where
  eventId := rt.eventId
  eventType := "TenantSuspendedDomainEvent"
  tenantId := org.organizationId
  correlationId := correlationId
  actorId := some suspendedBy
  occurredAt := rt.occurredAt
  payload := [("organizationId", .str org.organizationId), ("reason", .str reason),
    ("suspendedBy", .str suspendedBy), ("suspendedAt", .str (Js.toISOString suspendedAt))]

def suspend (org : OrganizationAggregate) (rt : Runtime)
    (reason suspendedBy correlationId : String) : Except Exception OrganizationAggregate :=
  if org.status ≠ .ACTIVE then
    .error (.conflict s!"Cannot suspend organization in status: {org.status.text}")
  else
    .ok { org with
      status := .SUSPENDED
      updatedAt := rt.touchedAt
      domainEvents := org.domainEvents ++
        [tenantSuspended rt org rt.now reason suspendedBy correlationId] }

def rename (org : OrganizationAggregate) (touchedAt : Js.Date) (newName : String) :
    Except Exception OrganizationAggregate :=
  let trimmed := Js.trim newName
  if Js.length trimmed < 2 ∨ Js.length trimmed > 100 then
    .error (.conflict "Organization name must be between 2 and 100 characters")
  else if trimmed = org.name then .ok org
  else .ok { org with name := trimmed, updatedAt := touchedAt }

def changePlan (org : OrganizationAggregate) (touchedAt : Js.Date) (planTier : TenantPlanTier) :
    OrganizationAggregate :=
  if org.plan.tier = planTier then org
  else { org with plan := .forTier planTier, updatedAt := touchedAt }

/-- An organization is created with a normal slug and one event on record. -/
theorem create_cases {rt : Runtime} {name slug ownerId correlationId : String}
    {planTier : TenantPlanTier} {org : OrganizationAggregate}
    (h : create rt name slug planTier ownerId correlationId = .ok org) :
    ∃ normal, TenantSlug.create slug = .ok normal ∧ org = {
      organizationId := rt.generateId
      name, slug := normal, ownerId
      plan := .forTier planTier
      status := .PROVISIONING
      provisionedAt := none
      settings := defaultSettings
      createdAt := rt.now
      updatedAt := rt.touchedAt
      domainEvents := [tenantCreated rt name normal.value planTier ownerId correlationId] } := by
  unfold create at h
  cases hslug : TenantSlug.create slug with
  | error e =>
      rw [hslug] at h
      cases h
  | ok normal =>
      rw [hslug] at h
      cases h
      exact ⟨normal, rfl, rfl⟩

/-- A suspension leaves everything but the status, the clock and the events. -/
theorem suspend_cases {org org' : OrganizationAggregate} {rt : Runtime}
    {reason suspendedBy correlationId : String}
    (h : org.suspend rt reason suspendedBy correlationId = .ok org') :
    org.status = .ACTIVE ∧ ∃ event, org' = { org with
      status := .SUSPENDED, updatedAt := rt.touchedAt,
      domainEvents := org.domainEvents ++ [event] } := by
  unfold suspend at h
  split at h
  · cases h
  · next hactive =>
      cases h
      exact ⟨not_not.mp hactive, _, rfl⟩

/-- A new name touches the name and the clock. -/
theorem rename_cases {org org' : OrganizationAggregate} {touchedAt : Js.Date} {newName : String}
    (h : org.rename touchedAt newName = .ok org') :
    ∃ name updatedAt, org' = { org with name, updatedAt } := by
  unfold rename at h
  simp only at h
  split at h
  · cases h
  · split at h
    · cases h
      exact ⟨_, _, rfl⟩
    · cases h
      exact ⟨_, _, rfl⟩

/-- A new plan touches the plan and the clock. -/
theorem changePlan_cases (org : OrganizationAggregate) (touchedAt : Js.Date)
    (planTier : TenantPlanTier) :
    ∃ plan updatedAt, org.changePlan touchedAt planTier = { org with plan, updatedAt } := by
  unfold changePlan
  split
  · exact ⟨_, _, rfl⟩
  · exact ⟨_, _, rfl⟩

end OrganizationAggregate

/-! ## The row and the mapper -/

/-- A row of `organizations`. -/
structure OrganizationOrmEntity where
  id : String
  name : String
  slug : String
  planTier : TenantPlanTier
  status : TenantStatus
  ownerId : String
  provisionedAt : Option Js.Date
  settings : JsonObject
  createdAt : Js.Date
  updatedAt : Js.Date
deriving DecidableEq

/-- What the columns make of a row, or `none` if one of them refuses its value. -/
def OrganizationOrmEntity.stored (row : OrganizationOrmEntity) : Option OrganizationOrmEntity := do
  let id ← Pg.uuid row.id
  let name ← Pg.varchar 100 row.name
  let slug ← Pg.varchar 63 row.slug
  let ownerId ← Pg.uuid row.ownerId
  let provisionedAt ← Pg.nullable Pg.timestamptz row.provisionedAt
  let settings ← Pg.jsonObject row.settings
  let createdAt ← Pg.timestamptz row.createdAt
  let updatedAt ← Pg.timestamptz row.updatedAt
  some { row with id, name, slug, ownerId, provisionedAt, settings, createdAt, updatedAt }

/-- What is stored of a row: the keys in their normal form, and what is neither
text nor a number as it is. -/
structure OrganizationOrmEntity.StoredAs (row row' : OrganizationOrmEntity) : Prop where
  id : Pg.uuid row.id = some row'.id
  slug : Pg.varchar 63 row.slug = some row'.slug
  ownerId : Pg.uuid row.ownerId = some row'.ownerId
  provisionedAt : row'.provisionedAt = row.provisionedAt
  planTier : row'.planTier = row.planTier
  status : row'.status = row.status

theorem OrganizationOrmEntity.storedAs {row row' : OrganizationOrmEntity}
    (h : row.stored = some row') : row.StoredAs row' := by
  obtain ⟨id, hid, h⟩ := Option.bind_eq_some_iff.mp h
  obtain ⟨name, -, h⟩ := Option.bind_eq_some_iff.mp h
  obtain ⟨slug, hslug, h⟩ := Option.bind_eq_some_iff.mp h
  obtain ⟨ownerId, howner, h⟩ := Option.bind_eq_some_iff.mp h
  obtain ⟨provisionedAt, hprovisioned, h⟩ := Option.bind_eq_some_iff.mp h
  obtain ⟨_, -, h⟩ := Option.bind_eq_some_iff.mp h
  obtain ⟨createdAt, -, h⟩ := Option.bind_eq_some_iff.mp h
  obtain ⟨updatedAt, -, h⟩ := Option.bind_eq_some_iff.mp h
  obtain rfl := Option.some.inj h
  have hsame : provisionedAt = row.provisionedAt :=
    Pg.nullable_eq (fun _ _ => Pg.timestamptz_eq) hprovisioned
  exact ⟨hid, hslug, howner, hsame, rfl, rfl⟩

/-- A row that the columns give back unchanged. -/
structure OrganizationOrmEntity.Columns (row : OrganizationOrmEntity) : Prop where
  id : Pg.uuid row.id = some row.id
  name : Pg.varchar 100 row.name = some row.name
  slug : Pg.varchar 63 row.slug = some row.slug
  ownerId : Pg.uuid row.ownerId = some row.ownerId
  provisionedAt : Pg.nullable Pg.timestamptz row.provisionedAt = some row.provisionedAt
  settings : Pg.jsonObject row.settings = some row.settings
  createdAt : Pg.timestamptz row.createdAt = some row.createdAt
  updatedAt : Pg.timestamptz row.updatedAt = some row.updatedAt

/-- What is stored, the columns give back unchanged. -/
theorem OrganizationOrmEntity.columns_of_stored {row row' : OrganizationOrmEntity}
    (h : row.stored = some row') : row'.Columns := by
  obtain ⟨id, hid, h⟩ := Option.bind_eq_some_iff.mp h
  obtain ⟨name, hname, h⟩ := Option.bind_eq_some_iff.mp h
  obtain ⟨slug, hslug, h⟩ := Option.bind_eq_some_iff.mp h
  obtain ⟨ownerId, howner, h⟩ := Option.bind_eq_some_iff.mp h
  obtain ⟨provisionedAt, hprovisioned, h⟩ := Option.bind_eq_some_iff.mp h
  obtain ⟨settings, hsettings, h⟩ := Option.bind_eq_some_iff.mp h
  obtain ⟨createdAt, hcreated, h⟩ := Option.bind_eq_some_iff.mp h
  obtain ⟨updatedAt, hupdated, h⟩ := Option.bind_eq_some_iff.mp h
  obtain rfl := Option.some.inj h
  exact ⟨Pg.uuid_uuid hid, Pg.varchar_varchar hname, Pg.varchar_varchar hslug,
    Pg.uuid_uuid howner,
    Pg.nullable_nullable (fun _ _ => Pg.timestamptz_timestamptz) hprovisioned,
    Pg.jsonObject_jsonObject hsettings, Pg.timestamptz_timestamptz hcreated,
    Pg.timestamptz_timestamptz hupdated⟩

namespace OrganizationMapper

def toDomain (orm : OrganizationOrmEntity) : Except Exception OrganizationAggregate := do
  let slug ← TenantSlug.create orm.slug
  return {
    organizationId := orm.id
    name := orm.name
    slug
    plan := .forTier orm.planTier
    status := orm.status
    ownerId := orm.ownerId
    provisionedAt := orm.provisionedAt
    settings := orm.settings
    createdAt := orm.createdAt
    updatedAt := orm.updatedAt }

def toOrm (domain : OrganizationAggregate) : OrganizationOrmEntity where
  id := domain.organizationId
  name := domain.name
  slug := domain.slug.value
  planTier := domain.plan.tier
  status := domain.status
  ownerId := domain.ownerId
  provisionedAt := domain.provisionedAt
  settings := domain.settings
  createdAt := domain.createdAt
  updatedAt := domain.updatedAt

/-- A row written from an aggregate is read back. -/
theorem toDomain_of_slug (orm : OrganizationOrmEntity) (slug : TenantSlug)
    (h : orm.slug = slug.value) : ∃ org, toDomain orm = .ok org ∧ toOrm org = orm := by
  have hcreate : TenantSlug.create orm.slug = .ok slug := by
    rw [h]
    exact slug.create_value
  refine ⟨_, by rw [toDomain, hcreate]; rfl, ?_⟩
  simp only [toOrm, TenantPlan.tier_forTier, ← h]

/-- What an aggregate takes over from its row. -/
theorem toDomain_cases {orm : OrganizationOrmEntity} {org : OrganizationAggregate}
    (h : toDomain orm = .ok org) : TenantSlug.create orm.slug = .ok org.slug ∧
      org.organizationId = orm.id ∧ org.status = orm.status ∧
      org.provisionedAt = orm.provisionedAt ∧ org.ownerId = orm.ownerId ∧
      org.domainEvents = [] := by
  unfold toDomain at h
  cases hslug : TenantSlug.create orm.slug with
  | error e =>
      rw [hslug] at h
      cases h
  | ok slug =>
      rw [hslug] at h
      cases h
      exact ⟨rfl, rfl, rfl, rfl, rfl, rfl⟩

theorem ownerId_toDomain {orm : OrganizationOrmEntity} {org : OrganizationAggregate}
    (h : toDomain orm = .ok org) : org.ownerId = orm.ownerId := by
  obtain ⟨-, -, -, -, howner, -⟩ := toDomain_cases h
  exact howner

/-- An aggregate built from a row has recorded no event. -/
theorem domainEvents_toDomain {orm : OrganizationOrmEntity} {org : OrganizationAggregate}
    (h : toDomain orm = .ok org) : org.domainEvents = [] := by
  obtain ⟨-, -, -, -, -, hevents⟩ := toDomain_cases h
  exact hevents

end OrganizationMapper

/-! ## The DTO -/

structure OrganizationDto where
  organizationId : String
  name : String
  slug : String
  plan : String
  status : String
  ownerId : String
  provisionedAt : Option String
  createdAt : String
  updatedAt : String
deriving DecidableEq

def OrganizationDto.fromAggregate (org : OrganizationAggregate) : OrganizationDto where
  organizationId := org.organizationId
  name := org.name
  slug := org.slug.value
  plan := org.plan.tier.text
  status := org.status.text
  ownerId := org.ownerId
  provisionedAt := org.provisionedAt.map Js.toISOString
  createdAt := Js.toISOString org.createdAt
  updatedAt := Js.toISOString org.updatedAt

end Atlas
