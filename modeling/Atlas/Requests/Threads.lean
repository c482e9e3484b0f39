import Atlas.Audit.Handlers
import Atlas.Http.Api
import Atlas.Lib.Thread

/-!
# Atlas.Requests.Threads

The handlers as Node runs them: at each `await` a handler gives way, and the
steps of other requests may come before its own next one.

Each `steps` has the awaits of the handler it is named after; run without
interruption it is that handler (`run_steps`).  A dashboard awaits all its
queries at once, in `Promise.all`; they are taken one after the other here,
since they only read.
-/

namespace Atlas

open StoreKit

/-- A handler, step by step. -/
abbrev Handler := Thread World Exception

/-- The awaits of `IEventBus.publish`. -/
def EventBus.steps (bus : EventBus) (event : TenantAwareEvent) : Handler Unit :=
  if bus.forwardingEnabled then do
    .call (ForwardingEventBus.innerPublish bus.inner [event])
    .call (ForwardingEventBus.writeEntry bus.otherDates ⟨event, bus.attempt⟩)
  else .call (ForwardingEventBus.innerPublish bus.inner [event])

def publishAllSteps (publish : TenantAwareEvent → Handler Unit) (eventType : String) :
    List DomainEvent → Handler Unit
  | [] => pure ()
  | event :: events => do
      publish (integrationEvent eventType event)
      publishAllSteps publish eventType events

def RegisterUserHandler.steps (publish : TenantAwareEvent → Handler Unit)
    (bcryptHash : String → String) (rt : Runtime) (command : RegisterUserCommand) :
    Handler (Result RegisterUserResult) := do
  let emailExists ← .call (UserRepository.existsByEmail command.email)
  if emailExists then
    pure (.error (.conflict s!"User with email '{command.email}' already exists"))
  else do
    let user ← .lift (UserAggregate.create bcryptHash rt.generateId command.email
      command.password command.displayName)
    let saved ← .call (UserRepository.save rt.savedAt user)
    publish (userRegistered rt command saved)
    pure (.ok ⟨saved.userId, saved.email.value, saved.displayName⟩)

namespace AuthenticateHandler

/-- What follows once the organization is looked up. -/
def issue {Token : Type} (sign : JwtPayload → String → Token) (rt : Runtime)
    (user : UserAggregate) : Option OrganizationAggregate → Handler (Result (TokenPair Token))
  | none => pure (.error (.unauthorized "Invalid credentials"))
  | some organization =>
    if organization.ownerId ≠ user.userId then
      pure (.error (.unauthorized "Invalid credentials"))
    else if organization.status ≠ .ACTIVE then
      pure (.error (.unauthorized s!"Tenant is {organization.status.text}"))
    else do
      let user := user.recordLogin rt.now
      let _ ← .call (UserRepository.save rt.savedAt user)
      pure (.ok (tokens sign user organization.organizationId))

def steps {Token : Type} (bcryptCompare : String → String → Bool)
    (sign : JwtPayload → String → Token) (ties : Typeorm.Arrangement OrganizationOrmEntity)
    (rt : Runtime) (command : AuthenticateCommand) : Handler (Result (TokenPair Token)) := do
  let user ← .call (UserRepository.findByEmail command.email)
  match user with
  | none => pure (.error (.unauthorized "Invalid credentials"))
  | some user =>
    if ¬ user.passwordHash.verify bcryptCompare command.password then
      pure (.error (.unauthorized "Invalid credentials"))
    else if ¬ user.isActive then
      pure (.error (.unauthorized s!"Account is {user.status.text}"))
    else do
      let organization ← .call (resolveOrganization ties user.userId command.organizationSlug)
      issue sign rt user organization

end AuthenticateHandler

def CreateOrganizationHandler.steps (publish : TenantAwareEvent → Handler Unit) (rt : Runtime)
    (command : CreateOrganizationCommand) : Handler (Result OrganizationDto) := do
  let slugExists ← .call (OrganizationRepository.existsBySlug command.slug)
  if slugExists then
    pure (.error (.conflict s!"Organization with slug '{command.slug}' already exists"))
  else do
    let organization ← .lift (OrganizationAggregate.create rt command.name command.slug
      command.planTier (command.actorId.getD rt.ownerId) command.correlationId)
    let saved ← .call (OrganizationRepository.provision rt.savedAt organization)
    publishAllSteps publish TENANT_CREATED saved.domainEvents
    pure (.ok (OrganizationDto.fromAggregate saved))

def SuspendOrganizationHandler.steps (publish : TenantAwareEvent → Handler Unit)
    (ctx : Option String) (rt : Runtime) (command : SuspendOrganizationCommand) :
    Handler (Result OrganizationDto) := do
  let organization ← .call (OrganizationRepository.findById ctx command.organizationId)
  match organization with
  | none => pure (.error (.notFound "Organization" command.organizationId))
  | some organization => do
      let organization ← .lift (command.apply rt organization)
      let saved ← .call (OrganizationRepository.save ctx rt.savedAt organization)
      publishAllSteps publish TENANT_SUSPENDED saved.domainEvents
      pure (.ok (OrganizationDto.fromAggregate saved))

def UpdateOrganizationHandler.steps (ctx : Option String) (rt : Runtime)
    (command : UpdateOrganizationCommand) : Handler (Result OrganizationDto) := do
  let organization ← .call (OrganizationRepository.findById ctx command.organizationId)
  match organization with
  | none => pure (.error (.notFound "Organization" command.organizationId))
  | some organization => do
      let organization ← .lift (command.apply rt organization)
      let saved ← .call (OrganizationRepository.save ctx rt.savedAt organization)
      pure (.ok (OrganizationDto.fromAggregate saved))

def TriggerWorkflowHandler.steps (publish : TenantAwareEvent → Handler Unit)
    (ctx : Option String) (rt : Runtime) (command : TriggerWorkflowCommand) :
    Handler (Result TriggerWorkflowResult) := do
  let definition ← .call (WorkflowDefinitionRepository.findById ctx rt.loadedAt
    command.definitionId)
  match definition with
  | none => pure (.error (.notFound "WorkflowDefinition" command.definitionId))
  | some definition =>
    if ¬ definition.isActive then
      pure (.error (.error s!"Workflow definition '{definition.definitionId}' is not active"))
    else do
      let execution := WorkflowExecutionEntity.create rt.generateId rt.now
        definition.definitionId command.tenantId command.correlationId
        (command.actorId.getD "system") command.triggerType command.input
      let saved ← .call (WorkflowExecutionRepository.save ctx rt execution)
      publish (workflowTriggered rt.occurredAt command definition saved)
      pure (.ok ⟨saved.executionId, saved.definitionId, saved.status.text⟩)

def CancelWorkflowExecutionHandler.steps (ctx : Option String) (rt : Runtime)
    (command : CancelWorkflowExecutionCommand) : Handler (Result WorkflowExecutionDto) := do
  let execution ← .call (WorkflowExecutionRepository.findById ctx rt.loadedAt
    command.executionId)
  match execution with
  | none => pure (.error (.notFound "WorkflowExecution" command.executionId))
  | some execution => do
      let execution ← .lift (execution.cancel rt.now command.reason)
      let saved ← .call (WorkflowExecutionRepository.save ctx rt execution)
      pure (.ok (WorkflowExecutionDto.fromEntity saved))

def RecordAuditEventHandler.steps (publish : TenantAwareEvent → Handler Unit)
    (inet : String → Option String) (ctx : Option String) (rt : Runtime)
    (command : RecordAuditEventCommand) : Handler (Result String) := do
  let auditEvent := AuditEventEntity.create rt.generateId rt.occurredAt command
  let saved ← .call (AuditEventRepository.append inet ctx auditEvent)
  publish (auditEventRecorded saved)
  pure (.ok saved.auditEventId)

/-! ## On their own -/

/-- A publish taken at once is the bus's own. -/
theorem EventBus.run_steps (bus : EventBus) (event : TenantAwareEvent) :
    (bus.steps event).run = bus.publish event := by
  unfold EventBus.steps EventBus.publish
  cases bus.forwardingEnabled with
  | true =>
      rw [if_pos rfl, if_pos rfl, Thread.run_bind, Thread.run_call]
      exact congrArg _ (funext fun _ => Thread.run_call _)
  | false => exact Thread.run_call _

section Publish

variable {publish : TenantAwareEvent → Handler Unit}

/-- Events that are published one after the other, taken at once. -/
theorem run_publishAllSteps (eventType : String) (events : List DomainEvent) :
    (publishAllSteps publish eventType events).run =
      publishAll (fun event => (publish event).run) eventType events := by
  induction events with
  | nil => rfl
  | cons event events ih =>
      rw [publishAllSteps, publishAll, Thread.run_bind]
      exact congrArg _ (funext fun _ => ih)

/-- A registration that nothing interrupts is the handler's. -/
theorem RegisterUserHandler.run_steps (bcryptHash : String → String) (rt : Runtime)
    (command : RegisterUserCommand) :
    (steps publish bcryptHash rt command).run =
      execute (fun event => (publish event).run) bcryptHash rt command := by
  unfold steps execute
  rw [Thread.run_bind, Thread.run_call]
  refine congrArg _ (funext fun emailExists => ?_)
  cases emailExists with
  | true => rfl
  | false =>
      rw [if_neg Bool.false_ne_true, if_neg Bool.false_ne_true, Thread.run_bind, Thread.run_lift]
      refine congrArg _ (funext fun user => ?_)
      rw [Thread.run_bind, Thread.run_call]
      refine congrArg _ (funext fun saved => ?_)
      rw [Thread.run_bind]
      rfl

/-- A login that nothing interrupts is the handler's. -/
theorem AuthenticateHandler.run_steps {Token : Type} (bcryptCompare : String → String → Bool)
    (sign : JwtPayload → String → Token) (ties : Typeorm.Arrangement OrganizationOrmEntity)
    (rt : Runtime) (command : AuthenticateCommand) :
    (steps bcryptCompare sign ties rt command).run =
      execute bcryptCompare sign ties rt command := by
  unfold steps execute
  rw [Thread.run_bind, Thread.run_call]
  refine congrArg _ (funext fun user => ?_)
  cases user with
  | none => rfl
  | some user =>
      by_cases hpassword : user.passwordHash.verify bcryptCompare command.password = true
      · by_cases hactive : user.isActive = true
        · simp only [hpassword, hactive, not_true, if_false, Thread.run_bind, Thread.run_call]
          refine congrArg _ (funext fun organization => ?_)
          cases organization with
          | none => rfl
          | some organization =>
              unfold issue
              by_cases howner : organization.ownerId = user.userId
              · by_cases hstatus : organization.status = .ACTIVE
                · simp only [howner, hstatus, ne_eq, not_true, if_false, Thread.run_bind,
                    Thread.run_call]
                  rfl
                · simp only [howner, hstatus, ne_eq, not_true, if_false, not_false_eq_true,
                    if_true]
                  rfl
              · simp only [howner, ne_eq, not_false_eq_true, if_true]
                rfl
        · simp only [hpassword, hactive, not_true, if_false, Bool.false_eq_true,
            not_false_eq_true, if_true]
          rfl
      · simp only [hpassword, Bool.false_eq_true, not_false_eq_true, if_true]
        rfl

/-- A creation that nothing interrupts is the handler's. -/
theorem CreateOrganizationHandler.run_steps (rt : Runtime) (command : CreateOrganizationCommand) :
    (steps publish rt command).run =
      execute (fun event => (publish event).run) rt command := by
  unfold steps execute
  rw [Thread.run_bind, Thread.run_call]
  refine congrArg _ (funext fun slugExists => ?_)
  cases slugExists with
  | true => rfl
  | false =>
      rw [if_neg Bool.false_ne_true, if_neg Bool.false_ne_true, Thread.run_bind, Thread.run_lift]
      refine congrArg _ (funext fun organization => ?_)
      rw [Thread.run_bind, Thread.run_call]
      refine congrArg _ (funext fun saved => ?_)
      rw [Thread.run_bind, run_publishAllSteps]
      rfl

/-- A suspension that nothing interrupts is the handler's. -/
theorem SuspendOrganizationHandler.run_steps (ctx : Option String) (rt : Runtime)
    (command : SuspendOrganizationCommand) :
    (steps publish ctx rt command).run =
      execute (fun event => (publish event).run) ctx rt command := by
  unfold steps execute
  rw [Thread.run_bind, Thread.run_call]
  refine congrArg _ (funext fun organization => ?_)
  cases organization with
  | none => rfl
  | some organization =>
      simp only [Thread.run_bind, Thread.run_call, Thread.run_lift, run_publishAllSteps]
      rfl

/-- An update that nothing interrupts is the handler's. -/
theorem UpdateOrganizationHandler.run_steps (ctx : Option String) (rt : Runtime)
    (command : UpdateOrganizationCommand) :
    (steps ctx rt command).run = execute ctx rt command := by
  unfold steps execute
  rw [Thread.run_bind, Thread.run_call]
  refine congrArg _ (funext fun organization => ?_)
  cases organization with
  | none => rfl
  | some organization =>
      simp only [Thread.run_bind, Thread.run_call, Thread.run_lift]
      rfl

/-- A trigger that nothing interrupts is the handler's. -/
theorem TriggerWorkflowHandler.run_steps (ctx : Option String) (rt : Runtime)
    (command : TriggerWorkflowCommand) :
    (steps publish ctx rt command).run =
      execute (fun event => (publish event).run) ctx rt command := by
  unfold steps execute
  rw [Thread.run_bind, Thread.run_call]
  refine congrArg _ (funext fun definition => ?_)
  cases definition with
  | none => rfl
  | some definition =>
      by_cases hactive : definition.isActive = true
      · simp only [hactive, not_true, if_false, Thread.run_bind, Thread.run_call]
        rfl
      · simp only [hactive, Bool.false_eq_true, not_false_eq_true, if_true]
        rfl

/-- A cancellation that nothing interrupts is the handler's. -/
theorem CancelWorkflowExecutionHandler.run_steps (ctx : Option String) (rt : Runtime)
    (command : CancelWorkflowExecutionCommand) :
    (steps ctx rt command).run = execute ctx rt command := by
  unfold steps execute
  rw [Thread.run_bind, Thread.run_call]
  refine congrArg _ (funext fun execution => ?_)
  cases execution with
  | none => rfl
  | some execution =>
      simp only [Thread.run_bind, Thread.run_call, Thread.run_lift]
      rfl

/-- An audit record that nothing interrupts is the handler's. -/
theorem RecordAuditEventHandler.run_steps (inet : String → Option String) (ctx : Option String)
    (rt : Runtime) (command : RecordAuditEventCommand) :
    (steps publish inet ctx rt command).run =
      execute (fun event => (publish event).run) inet ctx rt command := by
  unfold steps execute
  simp only [Thread.run_bind, Thread.run_call]
  rfl

end Publish

end Atlas
