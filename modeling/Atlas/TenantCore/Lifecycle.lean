import Atlas.Lib.Run
import Atlas.TenantCore.Organization

/-!
# Atlas.TenantCore.Lifecycle

The methods of an organization, called in any order.

A method writes field after field, so it is a program over the aggregate.
`Change` lists what a call can do to an organization, `run_change` says that it
does one of these; the invariant (`Sound`) and the promises about a single call
(`Obeys`) are read off the list.
-/

namespace Atlas

open StoreKit

namespace Organization

/-! ## The methods -/

/-- A method of the aggregate. -/
abbrev Method := Program OrganizationAggregate Exception Unit

def touch (touchedAt : Js.Date) : Method := .modify fun org => { org with updatedAt := touchedAt }

def addDomainEvent (event : DomainEvent) : Method :=
  .modify fun org => { org with domainEvents := org.domainEvents ++ [event] }

/-- `new TenantProvisionedDomainEvent(...)`. -/
def tenantProvisioned (rt : Runtime) (organizationId : String) (provisionedAt : Js.Date)
    (defaultProjectId correlationId : String) : DomainEvent where
  eventId := rt.eventId
  eventType := "TenantProvisionedDomainEvent"
  tenantId := organizationId
  correlationId := correlationId
  occurredAt := rt.occurredAt
  payload := [("organizationId", .str organizationId), ("defaultProjectId", .str defaultProjectId),
    ("provisionedAt", .str (Js.toISOString provisionedAt))]

def markProvisioned (rt : Runtime) (defaultProjectId correlationId : String) : Method := do
  let org ← .gets id
  if org.status ≠ .PROVISIONING then
    .reject (.conflict s!"Cannot provision organization in status: {org.status.text}")
  .modify fun org => { org with status := .ACTIVE }
  .modify fun org => { org with provisionedAt := some rt.now }
  touch rt.touchedAt
  addDomainEvent (tenantProvisioned rt org.organizationId rt.now defaultProjectId correlationId)

def suspend (rt : Runtime) (reason suspendedBy correlationId : String) : Method := do
  let org ← .gets id
  if org.status ≠ .ACTIVE then
    .reject (.conflict s!"Cannot suspend organization in status: {org.status.text}")
  .modify fun org => { org with status := .SUSPENDED }
  touch rt.touchedAt
  addDomainEvent
    (OrganizationAggregate.tenantSuspended rt org rt.now reason suspendedBy correlationId)

def rename (rt : Runtime) (newName : String) : Method := do
  let trimmed := Js.trim newName
  if Js.length trimmed < 2 ∨ Js.length trimmed > 100 then
    .reject (.conflict "Organization name must be between 2 and 100 characters")
  let org ← .gets id
  if trimmed = org.name then return
  .modify fun org => { org with name := trimmed }
  touch rt.touchedAt

def changePlan (rt : Runtime) (planTier : TenantPlanTier) : Method := do
  let org ← .gets id
  if org.plan.tier = planTier then return
  .modify fun org => { org with plan := .forTier planTier }
  touch rt.touchedAt

def reactivate (rt : Runtime) : Method := do
  let org ← .gets id
  if org.status ≠ .SUSPENDED then
    .reject (.conflict s!"Cannot reactivate organization in status: {org.status.text}")
  .modify fun org => { org with status := .ACTIVE }
  touch rt.touchedAt

/-- `{ ...settings, ...update }`: a member keeps its place and takes the new
value, new members come last. -/
def spread (settings update : JsonObject) : JsonObject :=
  settings.map (fun (key, value) => (key, (update.lookup key).getD value)) ++
    update.filter fun (key, _) => settings.all (·.1 ≠ key)

def updateSettings (rt : Runtime) (settings : JsonObject) : Method := do
  .modify fun org => { org with settings := spread org.settings settings }
  touch rt.touchedAt

example : spread [("ssoEnabled", .bool false), ("auditEnabled", .bool true)]
    [("auditEnabled", .bool false)] = [("ssoEnabled", .bool false), ("auditEnabled", .bool false)] := by
  decide

/-- A call of a method, with what the runtime hands out during it. -/
inductive Call where
  | markProvisioned (rt : Runtime) (defaultProjectId correlationId : String)
  | suspend (rt : Runtime) (reason suspendedBy correlationId : String)
  | reactivate (rt : Runtime)
  | rename (rt : Runtime) (newName : String)
  | changePlan (rt : Runtime) (planTier : TenantPlanTier)
  | updateSettings (rt : Runtime) (settings : JsonObject)
deriving DecidableEq

def Call.method : Call → Method
  | .markProvisioned rt defaultProjectId correlationId =>
      Organization.markProvisioned rt defaultProjectId correlationId
  | .suspend rt reason suspendedBy correlationId =>
      Organization.suspend rt reason suspendedBy correlationId
  | .reactivate rt => Organization.reactivate rt
  | .rename rt newName => Organization.rename rt newName
  | .changePlan rt planTier => Organization.changePlan rt planTier
  | .updateSettings rt settings => Organization.updateSettings rt settings

/-- How the call ends, and the organization it leaves. -/
def Call.run (org : OrganizationAggregate) (call : Call) :
    Except Exception Unit × OrganizationAggregate :=
  call.method.run org

/-! ## What a method does -/

/-- `markProvisioned` takes an organization that is provisioning, and throws at
any other. -/
theorem markProvisioned_run (rt : Runtime) (defaultProjectId correlationId : String)
    (org : OrganizationAggregate) :
    (markProvisioned rt defaultProjectId correlationId).run org =
      if org.status = .PROVISIONING then
        (.ok (), { org with
          status := .ACTIVE
          provisionedAt := some rt.now
          updatedAt := rt.touchedAt
          domainEvents := org.domainEvents ++
            [tenantProvisioned rt org.organizationId rt.now defaultProjectId correlationId] })
      else
        (.error (.conflict s!"Cannot provision organization in status: {org.status.text}"), org) := by
  rw [markProvisioned, Program.bind_run]
  by_cases h : org.status = .PROVISIONING <;> simp [h, Program.bind_run, touch, addDomainEvent]

/-- The method changes the organization as the pure `suspend` says, and leaves
it alone where that one throws. -/
theorem suspend_run (rt : Runtime) (reason suspendedBy correlationId : String)
    (org : OrganizationAggregate) :
    (suspend rt reason suspendedBy correlationId).run org =
      match org.suspend rt reason suspendedBy correlationId with
        | .ok suspended => (.ok (), suspended)
        | .error x => (.error x, org) := by
  rw [suspend, Program.bind_run, OrganizationAggregate.suspend]
  by_cases h : org.status = .ACTIVE <;> simp [h, Program.bind_run, touch, addDomainEvent]

/-- `rename` throws before it changes anything. -/
theorem rename_run (rt : Runtime) (newName : String) (org : OrganizationAggregate) :
    (rename rt newName).run org = match org.rename rt.touchedAt newName with
      | .ok renamed => (.ok (), renamed)
      | .error x => (.error x, org) := by
  rw [rename, OrganizationAggregate.rename]
  generalize Js.trim newName = trimmed
  by_cases hlength : Js.length trimmed < 2 ∨ Js.length trimmed > 100
  · simp only [if_pos hlength]
    rfl
  · simp only [if_neg hlength]
    by_cases hname : trimmed = org.name <;> simp [hname, Program.bind_run, touch]

/-- `changePlan` never throws. -/
theorem changePlan_run (rt : Runtime) (planTier : TenantPlanTier) (org : OrganizationAggregate) :
    (changePlan rt planTier).run org = (.ok (), org.changePlan rt.touchedAt planTier) := by
  rw [changePlan, Program.bind_run, OrganizationAggregate.changePlan]
  by_cases h : org.plan.tier = planTier <;> simp [h, Program.bind_run, touch]

/-- `reactivate` takes a suspended organization, and throws at any other. -/
theorem reactivate_run (rt : Runtime) (org : OrganizationAggregate) :
    (reactivate rt).run org = if org.status = .SUSPENDED then
        (.ok (), { org with status := .ACTIVE, updatedAt := rt.touchedAt })
      else
        (.error (.conflict s!"Cannot reactivate organization in status: {org.status.text}"), org) := by
  rw [reactivate, Program.bind_run]
  by_cases h : org.status = .SUSPENDED <;> simp [h, Program.bind_run, touch]

/-- `updateSettings` never throws. -/
theorem updateSettings_run (rt : Runtime) (settings : JsonObject) (org : OrganizationAggregate) :
    (updateSettings rt settings).run org = (.ok (), { org with
      settings := spread org.settings settings, updatedAt := rt.touchedAt }) := rfl

/-! ## What a call can do -/

/-- What a call does to an organization: it throws and changes nothing; it
provisions, suspends or reactivates the organization; or it changes details. -/
inductive Change (org : OrganizationAggregate) : Except Exception Unit × OrganizationAggregate → Prop
  where
  | throws (x : Exception) : Change org (.error x, org)
  | provisions (hstatus : org.status = .PROVISIONING) (rt : Runtime)
      (defaultProjectId correlationId : String) :
      Change org (.ok (), { org with
        status := .ACTIVE
        provisionedAt := some rt.now
        updatedAt := rt.touchedAt
        domainEvents := org.domainEvents ++
          [tenantProvisioned rt org.organizationId rt.now defaultProjectId correlationId] })
  | suspends (hstatus : org.status = .ACTIVE) (rt : Runtime)
      (reason suspendedBy correlationId : String) :
      Change org (.ok (), { org with
        status := .SUSPENDED
        updatedAt := rt.touchedAt
        domainEvents := org.domainEvents ++
          [OrganizationAggregate.tenantSuspended rt org rt.now reason suspendedBy correlationId] })
  | reactivates (hstatus : org.status = .SUSPENDED) (updatedAt : Js.Date) :
      Change org (.ok (), { org with status := .ACTIVE, updatedAt })
  | details (name : String) (plan : TenantPlan) (settings : JsonObject) (updatedAt : Js.Date)
      (hplan : plan = org.plan ∨ ∃ tier, plan = .forTier tier) :
      Change org (.ok (), { org with name, plan, settings, updatedAt })

/-- **Every call is one of the changes**, a call that throws included. -/
theorem run_change (org : OrganizationAggregate) (call : Call) : Change org (call.run org) := by
  cases call with
  | markProvisioned rt defaultProjectId correlationId =>
      rw [Call.run, Call.method, markProvisioned_run]
      by_cases hstatus : org.status = .PROVISIONING
      · rw [if_pos hstatus]
        exact .provisions hstatus rt defaultProjectId correlationId
      · rw [if_neg hstatus]
        exact .throws _
  | suspend rt reason suspendedBy correlationId =>
      rw [Call.run, Call.method, suspend_run, OrganizationAggregate.suspend]
      by_cases hstatus : org.status = .ACTIVE
      · rw [if_neg (not_not.mpr hstatus)]
        exact .suspends hstatus rt reason suspendedBy correlationId
      · rw [if_pos hstatus]
        exact .throws _
  | reactivate rt =>
      rw [Call.run, Call.method, reactivate_run]
      by_cases hstatus : org.status = .SUSPENDED
      · rw [if_pos hstatus]
        exact .reactivates hstatus rt.touchedAt
      · rw [if_neg hstatus]
        exact .throws _
  | rename rt newName =>
      rw [Call.run, Call.method, rename_run]
      cases hrename : org.rename rt.touchedAt newName with
      | ok renamed =>
          obtain ⟨name, updatedAt, rfl⟩ := OrganizationAggregate.rename_cases hrename
          exact .details name org.plan org.settings updatedAt (.inl rfl)
      | error x => exact .throws x
  | changePlan rt planTier =>
      rw [Call.run, Call.method, changePlan_run, OrganizationAggregate.changePlan]
      by_cases htier : org.plan.tier = planTier
      · rw [if_pos htier]
        exact .details org.name org.plan org.settings org.updatedAt (.inl rfl)
      · rw [if_neg htier]
        exact .details org.name _ org.settings rt.touchedAt (.inr ⟨planTier, rfl⟩)
  | updateSettings rt settings =>
      rw [Call.run, Call.method, updateSettings_run]
      exact .details org.name org.plan _ rt.touchedAt (.inl rfl)

/-! ## The promises about one call -/

/-- The moves of the status. -/
inductive Moves : TenantStatus → TenantStatus → Prop where
  | provision : Moves .PROVISIONING .ACTIVE
  | suspend : Moves .ACTIVE .SUSPENDED
  | reactivate : Moves .SUSPENDED .ACTIVE

/-- The status stays or makes one of its moves, an instant of provisioning that
is set stays, and a call that throws changes nothing. -/
structure Obeys (org : OrganizationAggregate) (call : Call) : Prop where
  moves : (call.run org).2.status = org.status ∨ Moves org.status (call.run org).2.status
  provisionedAt : ∀ t, org.provisionedAt = some t → (call.run org).2.provisionedAt = some t
  atomic : ∀ x, (call.run org).1 = .error x → (call.run org).2 = org

/-! ## The invariant -/

/-- The events of provisioning that `provisionedAt` stands for. -/
def ProvisionedEvents (provisionedAt : Option Js.Date) (events : List DomainEvent) : Prop :=
  match provisionedAt with
  | none => events = []
  | some t => ∃ event, events = [event] ∧ event.eventType = "TenantProvisionedDomainEvent" ∧
      event.payload.lookup "provisionedAt" = some (.str (Js.toISOString t))

/-- The recorded events: the creation, the provisioning if there was one, the
suspensions; nothing is suspended before it is provisioned. -/
structure History (org : OrganizationAggregate) (suspensions : Nat)
    (created : DomainEvent) (provisioned suspended : List DomainEvent) : Prop where
  events : org.domainEvents = created :: (provisioned ++ suspended)
  isCreated : created.eventType = "TenantCreatedDomainEvent"
  isProvisioned : ProvisionedEvents org.provisionedAt provisioned
  isSuspended : ∀ event ∈ suspended, event.eventType = "TenantSuspendedDomainEvent"
  count : suspended.length = suspensions
  order : org.provisionedAt = none → suspended = []

/-- What holds of an organization that was created as `org₀` and has been
suspended so many times. -/
structure Sound (org₀ org : OrganizationAggregate) (suspensions : Nat) : Prop where
  organizationId : org.organizationId = org₀.organizationId
  slug : org.slug = org₀.slug
  ownerId : org.ownerId = org₀.ownerId
  provisionedAt : org.provisionedAt = none ↔ org.status = .PROVISIONING
  plan : org.plan = .forTier org.plan.tier
  history : ∃ created provisioned suspended, History org suspensions created provisioned suspended
  tenantId : ∀ event ∈ org.domainEvents, event.tenantId = org.organizationId

/-- The organization after the calls of a list. -/
abbrev after (org : OrganizationAggregate) (calls : List Call) : OrganizationAggregate :=
  final Call.run org calls

/-- One, if the call moves the organization from active to suspended. -/
def suspension (org : OrganizationAggregate) (call : Call) : Nat :=
  if org.status = .ACTIVE ∧ (call.run org).2.status = .SUSPENDED then 1 else 0

/-- How often the calls of a list do. -/
def suspensions : OrganizationAggregate → List Call → Nat
  | _, [] => 0
  | org, call :: calls => suspension org call + suspensions (call.run org).2 calls

/-- An organization that has just been created is sound, without a suspension. -/
theorem sound_create {rt : Runtime} {name slug ownerId correlationId : String}
    {planTier : TenantPlanTier} {org : OrganizationAggregate}
    (h : OrganizationAggregate.create rt name slug planTier ownerId correlationId = .ok org) :
    Sound org org 0 := by
  obtain ⟨normal, -, rfl⟩ := OrganizationAggregate.create_cases h
  refine ⟨rfl, rfl, rfl, by simp, by simp, ?_, ?_⟩
  · exact ⟨_, [], [], rfl, rfl, rfl, by simp, rfl, by simp⟩
  · simp [OrganizationAggregate.tenantCreated]

/-- A call that does not suspend leaves the history of an organization whose
events and instant of provisioning it leaves. -/
theorem History.congr {org org' : OrganizationAggregate} {n : Nat} {created : DomainEvent}
    {provisioned suspended : List DomainEvent} (h : History org n created provisioned suspended)
    (hevents : org'.domainEvents = org.domainEvents)
    (hprovisioned : org'.provisionedAt = org.provisionedAt) :
    History org' n created provisioned suspended where
  events := hevents.trans h.events
  isCreated := h.isCreated
  isProvisioned := hprovisioned ▸ h.isProvisioned
  isSuspended := h.isSuspended
  count := h.count
  order := hprovisioned ▸ h.order

/-- Provisioning appends the event to the creation alone. -/
theorem History.provision {org org' : OrganizationAggregate} {n : Nat} {created event : DomainEvent}
    {provisioned suspended : List DomainEvent} {t : Js.Date}
    (h : History org n created provisioned suspended) (hnone : org.provisionedAt = none)
    (hevents : org'.domainEvents = org.domainEvents ++ [event])
    (hprovisioned : org'.provisionedAt = some t)
    (htype : event.eventType = "TenantProvisionedDomainEvent")
    (hpayload : event.payload.lookup "provisionedAt" = some (.str (Js.toISOString t))) :
    History org' n created [event] suspended := by
  have hempty : provisioned = [] := by
    have hprovisioned := h.isProvisioned
    rw [hnone] at hprovisioned
    exact hprovisioned
  have hnosuspension := h.order hnone
  constructor
  · rw [hevents, h.events, hempty, hnosuspension]
    rfl
  · exact h.isCreated
  · rw [hprovisioned]
    exact ⟨event, rfl, htype, hpayload⟩
  · exact h.isSuspended
  · exact h.count
  · intro hnone'
    rw [hprovisioned] at hnone'
    cases hnone'

/-- A suspension appends its event. -/
theorem History.suspend {org org' : OrganizationAggregate} {n : Nat} {created event : DomainEvent}
    {provisioned suspended : List DomainEvent}
    (h : History org n created provisioned suspended) (hsome : org.provisionedAt ≠ none)
    (hevents : org'.domainEvents = org.domainEvents ++ [event])
    (hprovisioned : org'.provisionedAt = org.provisionedAt)
    (htype : event.eventType = "TenantSuspendedDomainEvent") :
    History org' (n + 1) created provisioned (suspended ++ [event]) := by
  constructor
  · rw [hevents, h.events]
    simp
  · exact h.isCreated
  · rw [hprovisioned]
    exact h.isProvisioned
  · intro e he
    rcases List.mem_append.mp he with he | he
    · exact h.isSuspended e he
    · rw [List.mem_singleton.mp he]
      exact htype
  · rw [List.length_append, h.count]
    rfl
  · intro hnone
    rw [hprovisioned] at hnone
    exact absurd hnone hsome

section

variable {org₀ org : OrganizationAggregate} {n : Nat}

/-- **One call keeps every clause of `Sound`.** -/
theorem sound_step (h : Sound org₀ org n) (call : Call) :
    Sound org₀ (call.run org).2 (n + suspension org call) := by
  have hchange := run_change org call
  obtain ⟨created, provisioned, suspended, hhistory⟩ := h.history
  have hnone : ¬(org.status = .ACTIVE ∧ org.status = .SUSPENDED) := by
    rintro ⟨hactive, hsuspended⟩
    rw [hactive] at hsuspended
    cases hsuspended
  rw [suspension]
  generalize call.run org = result at hchange ⊢
  cases hchange with
  | throws x =>
      rw [if_neg hnone]
      exact h
  | provisions hstatus rt defaultProjectId correlationId =>
      have hunset := h.provisionedAt.mpr hstatus
      rw [if_neg (by simp)]
      refine ⟨h.organizationId, h.slug, h.ownerId, by simp, h.plan,
        ⟨created, _, suspended, hhistory.provision hunset rfl rfl rfl rfl⟩, ?_⟩
      simp only [List.forall_mem_append, List.forall_mem_singleton]
      exact ⟨h.tenantId, rfl⟩
  | suspends hstatus rt reason suspendedBy correlationId =>
      have hset : org.provisionedAt ≠ none := by
        rw [ne_eq, h.provisionedAt, hstatus]
        decide
      rw [if_pos ⟨hstatus, rfl⟩]
      refine ⟨h.organizationId, h.slug, h.ownerId, by simp [hset], h.plan,
        ⟨created, provisioned, _, hhistory.suspend hset rfl rfl rfl⟩, ?_⟩
      simp only [List.forall_mem_append, List.forall_mem_singleton]
      exact ⟨h.tenantId, rfl⟩
  | reactivates hstatus updatedAt =>
      have hset : org.provisionedAt ≠ none := by
        rw [ne_eq, h.provisionedAt, hstatus]
        decide
      rw [if_neg (by simp)]
      exact ⟨h.organizationId, h.slug, h.ownerId, by simp [hset], h.plan,
        ⟨created, provisioned, suspended, hhistory.congr rfl rfl⟩, h.tenantId⟩
  | details name plan settings updatedAt hplan =>
      have hlimits : plan = .forTier plan.tier := by
        rcases hplan with rfl | ⟨tier, rfl⟩
        · exact h.plan
        · rw [TenantPlan.tier_forTier]
      rw [if_neg hnone]
      exact ⟨h.organizationId, h.slug, h.ownerId, h.provisionedAt, hlimits,
        ⟨created, provisioned, suspended, hhistory.congr rfl rfl⟩, h.tenantId⟩

/-- **Every call obeys the lifecycle**, on an organization that is sound. -/
theorem obeys_of_sound (h : Sound org₀ org n) (call : Call) : Obeys org call := by
  have hchange := run_change org call
  constructor
  · generalize call.run org = result at hchange ⊢
    cases hchange with
    | throws x => exact .inl rfl
    | provisions hstatus rt defaultProjectId correlationId => exact .inr (hstatus ▸ .provision)
    | suspends hstatus rt reason suspendedBy correlationId => exact .inr (hstatus ▸ .suspend)
    | reactivates hstatus updatedAt => exact .inr (hstatus ▸ .reactivate)
    | details name plan settings updatedAt hplan => exact .inl rfl
  · intro t ht
    generalize call.run org = result at hchange ⊢
    cases hchange with
    | provisions hstatus rt defaultProjectId correlationId =>
        rw [h.provisionedAt.mpr hstatus] at ht
        cases ht
    | throws x => exact ht
    | suspends hstatus rt reason suspendedBy correlationId => exact ht
    | reactivates hstatus updatedAt => exact ht
    | details name plan settings updatedAt hplan => exact ht
  · intro x hx
    generalize call.run org = result at hchange hx ⊢
    cases hchange with
    | throws y => rfl
    | provisions hstatus rt defaultProjectId correlationId => cases hx
    | suspends hstatus rt reason suspendedBy correlationId => cases hx
    | reactivates hstatus updatedAt => cases hx
    | details name plan settings updatedAt hplan => cases hx

/-- **The record stays sound** through every list of calls. -/
theorem sound_after (calls : List Call) (h : Sound org₀ org n) :
    Sound org₀ (after org calls) (n + suspensions org calls) := by
  induction calls generalizing org n with
  | nil => exact h
  | cons call calls ih =>
      have hrest := ih (sound_step h call)
      rw [suspensions, ← Nat.add_assoc]
      exact hrest

end

/-- **The life of an organization**: through every sequence of calls every call
keeps its promises, and the organization it leaves is sound. -/
theorem lifecycle {rt : Runtime} {name slug ownerId correlationId : String}
    {planTier : TenantPlanTier} {org : OrganizationAggregate}
    (hcreate : OrganizationAggregate.create rt name slug planTier ownerId correlationId = .ok org)
    (calls : List Call) :
    Each Call.run Obeys org calls ∧ Sound org (after org calls) (suspensions org calls) := by
  have hsound := sound_create hcreate
  constructor
  · refine each_of_invariant (I := fun org' => ∃ n, Sound org org' n) ?_ ?_ ⟨0, hsound⟩
    · intro org' call hinv
      obtain ⟨n, hn⟩ := hinv
      exact ⟨_, sound_step hn call⟩
    · intro org' call hinv
      obtain ⟨n, hn⟩ := hinv
      exact obeys_of_sound hn call
  · have hafter := sound_after calls hsound
    rwa [Nat.zero_add] at hafter

def sampleRuntime : Runtime where
  generateId := Pg.uuidOf 1
  ownerId := Pg.uuidOf 2
  eventId := Pg.uuidOf 3
  now := 1716500000000
  touchedAt := 1716500000000
  occurredAt := 1716500000000
  savedAt := 1716500000000
  loadedAt := 1716500000000

/-- A provisioned organization that is suspended twice; the last suspension throws. -/
def sampleCalls : List Call :=
  [.suspend sampleRuntime "unpaid" "system" "c-1", .markProvisioned sampleRuntime "p-1" "c-2",
    .suspend sampleRuntime "unpaid" "system" "c-3", .changePlan sampleRuntime .PRO,
    .reactivate sampleRuntime, .suspend sampleRuntime "unpaid" "system" "c-4",
    .suspend sampleRuntime "unpaid" "system" "c-5"]

theorem lifecycle_sample :
    ∃ org, OrganizationAggregate.create sampleRuntime "Acme" "acme" .FREE (Pg.uuidOf 2) "c-0" = .ok org ∧
      suspensions org sampleCalls = 2 ∧ Each Call.run Obeys org sampleCalls ∧
      Sound org (after org sampleCalls) (suspensions org sampleCalls) := by
  have hslug : TenantSlug.create "acme" = .ok ⟨"acme", by decide⟩ := by decide +kernel
  have hcreate := OrganizationAggregate.create.eq_1 sampleRuntime "Acme" "acme" .FREE (Pg.uuidOf 2) "c-0"
  rw [hslug] at hcreate
  exact ⟨_, hcreate, by decide +kernel, lifecycle hcreate sampleCalls⟩

end Organization

end Atlas
