import Atlas.Audit.Handlers
import Atlas.Identity.Handlers
import Atlas.Requests.History
import Atlas.Workflow.Handlers

/-!
# Atlas.Requests.Answers

What the answer of a write says of the database: the row it was given for is
there, with its id and what no request changes.

Each of these holds from the moment of the answer on, whatever other requests
do (`evolves`).  They say nothing of what others do change: the name, the plan and
the status of an organization, and when and why an execution was cancelled.
-/

namespace Atlas

open StoreKit

/-- Something holds of the value of a result, if it has one. -/
def IfOk {α : Type} (P : α → World → Prop) : Result α → World → Prop
  | .ok a, w => P a w
  | .error _, _ => True

/-- What follows from a property of the value follows from the result. -/
theorem IfOk.mono {α : Type} {P P' : α → World → Prop} {w w' : World}
    (h : ∀ a, P a w → P' a w') {result : Result α} (hresult : IfOk P result w) :
    IfOk P' result w' := by
  cases result with
  | ok a => exact h a hresult
  | error e => trivial

variable {moving : String → Prop} {w w' : World}

/-! ## Users -/

/-- The user that a registration answered, under the address it was given. -/
def Registered (rt : Runtime) (command : RegisterUserCommand) (result : RegisterUserResult)
    (w : World) : Prop :=
  result.userId = rt.generateId ∧
    (Email.create command.email).map Email.value = .ok result.email ∧
    ∃ row ∈ w.users.rows, Pg.uuid result.userId = some row.id ∧ row.email = result.email ∧
      row.status = .pending_verification

/-- No request takes a user away, or the address and the status it has. -/
theorem Registered.evolves {rt : Runtime} {command : RegisterUserCommand}
    {result : RegisterUserResult} (h : Registered rt command result w)
    (hw : w.Evolves moving w') : Registered rt command result w' := by
  obtain ⟨hgenerated, hcommand, row, hrow, hid, hemail, hstatus⟩ := h
  obtain ⟨row', hrow', hbecomes⟩ := hw.users.kept row hrow
  exact ⟨hgenerated, hcommand, row', hrow', hid.trans (congrArg some hbecomes.id.symm),
    hbecomes.email.trans hemail, hbecomes.status.trans hstatus⟩

/-! ## Organizations -/

/-- The row is the one that an answer describes. -/
structure OrganizationDto.Describes (dto : OrganizationDto) (row : OrganizationOrmEntity) :
    Prop where
  id : Pg.uuid dto.organizationId = some row.id
  slug : row.slug = dto.slug
  ownerId : Pg.uuid dto.ownerId = some row.ownerId

/-- A row is described as long as it lives: id, slug and owner stay. -/
theorem OrganizationDto.Describes.becomes {dto : OrganizationDto} {r s : OrganizationOrmEntity}
    (h : dto.Describes r) (hbecomes : r.Becomes moving s) : dto.Describes s where
  id := h.id.trans (congrArg some hbecomes.id.symm)
  slug := hbecomes.slug.trans h.slug
  ownerId := h.ownerId.trans (congrArg some hbecomes.ownerId.symm)

/-- The organization that a command on it answered. -/
def Known (organizationId : String) (dto : OrganizationDto) (w : World) : Prop :=
  ∃ row ∈ w.organizations.rows, dto.Describes row ∧ Pg.uuid organizationId = some row.id

/-- The organization that a creation answered, under the slug it was given. -/
def Created (rt : Runtime) (command : CreateOrganizationCommand) (dto : OrganizationDto)
    (w : World) : Prop :=
  dto.organizationId = rt.generateId ∧
    (TenantSlug.create command.slug).map TenantSlug.value = .ok dto.slug ∧
    ∃ row ∈ w.organizations.rows, dto.Describes row ∧ row.status = .PROVISIONING

/-- An organization that was answered stays known. -/
theorem Known.evolves {organizationId : String} {dto : OrganizationDto}
    (h : Known organizationId dto w) (hw : w.Evolves moving w') : Known organizationId dto w' := by
  obtain ⟨row, hrow, hdescribes, hid⟩ := h
  obtain ⟨row', hrow', hbecomes⟩ := hw.organizations.kept row hrow
  exact ⟨row', hrow', hdescribes.becomes hbecomes,
    hid.trans (congrArg some hbecomes.id.symm)⟩

/-- An organization that was created keeps its status: none of the requests
provisions it. -/
theorem Created.evolves {rt : Runtime} {command : CreateOrganizationCommand}
    {dto : OrganizationDto} (h : Created rt command dto w) (hw : w.Evolves moving w') :
    Created rt command dto w' := by
  obtain ⟨hgenerated, hcommand, row, hrow, hdescribes, hstatus⟩ := h
  obtain ⟨row', hrow', hbecomes⟩ := hw.organizations.kept row hrow
  exact ⟨hgenerated, hcommand, row', hrow', hdescribes.becomes hbecomes,
    (organizationCourse moving).fresh_becomes hstatus hbecomes⟩

/-! ## Executions -/

/-- The execution that a trigger answered. -/
def Triggered (command : TriggerWorkflowCommand) (result : TriggerWorkflowResult) (w : World) :
    Prop :=
  ∃ row ∈ w.workflowExecutions.rows, Pg.uuid result.executionId = some row.id ∧
    Pg.uuid command.definitionId = some row.definitionId ∧
    Pg.uuid command.tenantId = some row.tenantId ∧
    (row.status = .pending ∨ row.status = .cancelled)

/-- An execution that was triggered stays pending until it is cancelled. -/
theorem Triggered.evolves {command : TriggerWorkflowCommand} {result : TriggerWorkflowResult}
    (h : Triggered command result w) (hw : w.Evolves moving w') : Triggered command result w' := by
  obtain ⟨row, hrow, hid, hdefinition, htenant, hstatus⟩ := h
  obtain ⟨row', hrow', hbecomes⟩ := hw.workflowExecutions.kept row hrow
  exact ⟨row', hrow', hid.trans (congrArg some hbecomes.id.symm),
    hdefinition.trans (congrArg some hbecomes.definitionId.symm),
    htenant.trans (congrArg some hbecomes.tenantId.symm),
    executionCourse.fresh_becomes hstatus hbecomes⟩

/-- The execution that a cancellation answered. -/
def Cancelled (executionId : String) (dto : WorkflowExecutionDto) (w : World) : Prop :=
  ∃ row ∈ w.workflowExecutions.rows, Pg.uuid executionId = some row.id ∧
    Pg.uuid dto.executionId = some row.id ∧ Pg.uuid dto.tenantId = some row.tenantId ∧
    row.status = .cancelled

/-- An execution that was cancelled stays cancelled. -/
theorem Cancelled.evolves {executionId : String} {dto : WorkflowExecutionDto}
    (h : Cancelled executionId dto w) (hw : w.Evolves moving w') :
    Cancelled executionId dto w' := by
  obtain ⟨row, hrow, hasked, hid, htenant, hstatus⟩ := h
  obtain ⟨row', hrow', hbecomes⟩ := hw.workflowExecutions.kept row hrow
  refine ⟨row', hrow', hasked.trans (congrArg some hbecomes.id.symm),
    hid.trans (congrArg some hbecomes.id.symm),
    htenant.trans (congrArg some hbecomes.tenantId.symm), ?_⟩
  rcases hbecomes.status with hsame | ⟨-, hcancelled⟩
  · exact hsame.trans hstatus
  · exact hcancelled

/-! ## The audit log -/

/-- The event that was recorded for a command. -/
def Recorded (inet : String → Option String) (rt : Runtime) (command : RecordAuditEventCommand)
    (auditEventId : String) (w : World) : Prop :=
  ∃ row ∈ w.auditEvents.rows, Pg.uuid auditEventId = some row.id ∧
    (AuditEventRepository.toOrm
      (AuditEventEntity.create rt.generateId rt.occurredAt command)).stored inet = some row

/-- The log keeps every event as it was stored. -/
theorem Recorded.evolves {inet : String → Option String} {rt : Runtime}
    {command : RecordAuditEventCommand} {auditEventId : String}
    (h : Recorded inet rt command auditEventId w) (hw : w.Evolves moving w') :
    Recorded inet rt command auditEventId w' := by
  obtain ⟨row, hrow, hid, hstored⟩ := h
  exact ⟨row, hw.auditEvents.subset hrow, hid, hstored⟩

end Atlas
