import Atlas.TenantCore.Repository

/-!
# Atlas.TenantCore.Handlers

The organization commands.  `publish` is `eventBus.publish`.
-/

namespace Atlas

open StoreKit

/-- `Result.fail(error)`. -/
def resultFail {α : Type} (error : Exception) : App (Result α) := pure (Except.error error)

/-- `Result.ok(value)`. -/
def resultOk {α : Type} (value : α) : App (Result α) := pure (Except.ok value)

/-- A domain event under its integration event type. -/
def integrationEvent (eventType : String) (event : DomainEvent) : TenantAwareEvent where
  eventId := event.eventId
  eventType := eventType
  eventVersion := event.eventVersion
  tenantId := event.tenantId
  correlationId := event.correlationId
  actorId := event.actorId
  causationId := event.causationId
  traceId := event.traceId
  sourceService := event.sourceService
  sourceVersion := event.sourceVersion
  occurredAt := Js.toISOString event.occurredAt
  payload := event.payload
  isReplay := none
  replayId := none
  replayedAt := none
  replayReason := none
  replaySourceEventId := none

/-- The loop over the domain events of an aggregate. -/
def publishAll (publish : TenantAwareEvent → App Unit) (eventType : String) :
    List DomainEvent → App Unit
  | [] => pure ()
  | event :: events => do
      publish (integrationEvent eventType event)
      publishAll publish eventType events

/-! ## CreateOrganization -/

structure CreateOrganizationCommand where
  name : String
  slug : String
  planTier : TenantPlanTier
  tenantId : String
  correlationId : String
  actorId : Option String
deriving DecidableEq

def CreateOrganizationHandler.execute (publish : TenantAwareEvent → App Unit) (rt : Runtime)
    (command : CreateOrganizationCommand) : App (Result OrganizationDto) := do
  let slugExists ← OrganizationRepository.existsBySlug command.slug
  if slugExists then
    resultFail (.conflict s!"Organization with slug '{command.slug}' already exists")
  else do
    let organization ← .lift (OrganizationAggregate.create rt command.name command.slug
      command.planTier (command.actorId.getD rt.ownerId) command.correlationId)
    let saved ← OrganizationRepository.provision rt.savedAt organization
    publishAll publish TENANT_CREATED saved.domainEvents
    resultOk (OrganizationDto.fromAggregate saved)

/-! ## SuspendOrganization -/

structure SuspendOrganizationCommand where
  organizationId : String
  reason : String
  tenantId : String
  correlationId : String
  actorId : Option String
deriving DecidableEq

/-- What the command does to the aggregate. -/
def SuspendOrganizationCommand.apply (command : SuspendOrganizationCommand) (rt : Runtime)
    (organization : OrganizationAggregate) : Except Exception OrganizationAggregate :=
  organization.suspend rt command.reason (command.actorId.getD "system") command.correlationId

def SuspendOrganizationHandler.execute (publish : TenantAwareEvent → App Unit)
    (ctx : Option String) (rt : Runtime) (command : SuspendOrganizationCommand) :
    App (Result OrganizationDto) := do
  let organization ← OrganizationRepository.findById ctx command.organizationId
  match organization with
  | none => resultFail (.notFound "Organization" command.organizationId)
  | some organization => do
      let organization ← .lift (command.apply rt organization)
      let saved ← OrganizationRepository.save ctx rt.savedAt organization
      publishAll publish TENANT_SUSPENDED saved.domainEvents
      resultOk (OrganizationDto.fromAggregate saved)

/-! ## UpdateOrganization -/

structure UpdateOrganizationCommand where
  organizationId : String
  name : Option String
  planTier : Option TenantPlanTier
  tenantId : String
  correlationId : String
  actorId : Option String
deriving DecidableEq

/-- What the command does to the aggregate. -/
def UpdateOrganizationCommand.apply (command : UpdateOrganizationCommand) (rt : Runtime)
    (organization : OrganizationAggregate) : Except Exception OrganizationAggregate := do
  let organization ← match command.name with
    | some name => organization.rename rt.touchedAt name
    | none => pure organization
  match command.planTier with
  | some planTier => return organization.changePlan rt.touchedAt planTier
  | none => return organization

/-- An update renames the organization, if it gives a name, and then changes the
plan, if it gives one. -/
theorem UpdateOrganizationCommand.apply_steps {command : UpdateOrganizationCommand} {rt : Runtime}
    {org org' : OrganizationAggregate} (h : command.apply rt org = .ok org') :
    ∃ renamed,
      (renamed = org ∨ ∃ newName, org.rename rt.touchedAt newName = .ok renamed) ∧
      (org' = renamed ∨ ∃ planTier, org' = renamed.changePlan rt.touchedAt planTier) := by
  unfold UpdateOrganizationCommand.apply at h
  -- what is left after the first part is the same update without a name
  obtain ⟨renamed, hrenamed, hchange⟩ : ∃ renamed,
      (renamed = org ∨ ∃ newName, org.rename rt.touchedAt newName = .ok renamed) ∧
      { command with name := none }.apply rt renamed = .ok org' := by
    cases hname : command.name with
    | none =>
        rw [hname] at h
        exact ⟨org, .inl rfl, h⟩
    | some newName =>
        rw [hname] at h
        cases hrename : org.rename rt.touchedAt newName with
        | error e =>
            simp only [hrename] at h
            cases h
        | ok renamed =>
            simp only [hrename] at h
            exact ⟨renamed, .inr ⟨newName, hrename⟩, h⟩
  refine ⟨renamed, hrenamed, ?_⟩
  unfold UpdateOrganizationCommand.apply at hchange
  cases hplan : command.planTier with
  | none =>
      simp only [hplan] at hchange
      exact .inl (Except.ok.inj hchange).symm
  | some planTier =>
      simp only [hplan] at hchange
      exact .inr ⟨planTier, (Except.ok.inj hchange).symm⟩

/-- An update touches the name, the plan and the clock. -/
theorem UpdateOrganizationCommand.apply_cases {command : UpdateOrganizationCommand} {rt : Runtime}
    {org org' : OrganizationAggregate} (h : command.apply rt org = .ok org') :
    ∃ name plan updatedAt, org' = { org with name, plan, updatedAt } := by
  obtain ⟨renamed, hrename, hplan⟩ := UpdateOrganizationCommand.apply_steps h
  obtain ⟨name, updatedAt, rfl⟩ : ∃ name updatedAt, renamed = { org with name, updatedAt } := by
    rcases hrename with rfl | ⟨newName, hrename⟩
    · exact ⟨renamed.name, renamed.updatedAt, rfl⟩
    · exact OrganizationAggregate.rename_cases hrename
  rcases hplan with rfl | ⟨planTier, rfl⟩
  · exact ⟨name, org.plan, updatedAt, rfl⟩
  · obtain ⟨plan, updatedAt', hchange⟩ := OrganizationAggregate.changePlan_cases
      { org with name, updatedAt } rt.touchedAt planTier
    exact ⟨name, plan, updatedAt', hchange⟩

def UpdateOrganizationHandler.execute (ctx : Option String) (rt : Runtime)
    (command : UpdateOrganizationCommand) : App (Result OrganizationDto) := do
  let organization ← OrganizationRepository.findById ctx command.organizationId
  match organization with
  | none => resultFail (.notFound "Organization" command.organizationId)
  | some organization => do
      let organization ← .lift (command.apply rt organization)
      let saved ← OrganizationRepository.save ctx rt.savedAt organization
      resultOk (OrganizationDto.fromAggregate saved)

end Atlas
