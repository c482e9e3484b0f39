import Atlas.TenantCore.Handlers
import Atlas.Workflow.Repository

/-!
# Atlas.Workflow.Handlers

The workflow commands and queries.
-/

namespace Atlas

open StoreKit

/-! ## TriggerWorkflow -/

structure TriggerWorkflowCommand where
  tenantId : String
  correlationId : String
  actorId : Option String
  definitionId : String
  triggerType : TriggerType
  input : JsonObject
deriving DecidableEq

structure TriggerWorkflowResult where
  executionId : String
  definitionId : String
  status : String
deriving DecidableEq

/-- The event a triggered execution is announced with. -/
def workflowTriggered (occurredAt : Js.Date) (command : TriggerWorkflowCommand)
    (definition : WorkflowDefinitionEntity) (saved : WorkflowExecutionEntity) :
    TenantAwareEvent where
  eventId := saved.executionId
  eventType := WORKFLOW_TRIGGERED
  eventVersion := 1
  tenantId := saved.tenantId
  correlationId := saved.correlationId
  actorId := command.actorId
  causationId := none
  traceId := none
  sourceService := "atlas-saas-platform"
  sourceVersion := none
  occurredAt := Js.toISOString occurredAt
  payload := [("executionId", .str saved.executionId), ("definitionId", .str saved.definitionId),
    ("definitionName", .str definition.name), ("triggeredBy", .str saved.triggeredBy),
    ("triggerType", .str saved.triggerType.text), ("input", .obj command.input)]
  isReplay := none
  replayId := none
  replayedAt := none
  replayReason := none
  replaySourceEventId := none

def TriggerWorkflowHandler.execute (publish : TenantAwareEvent → App Unit) (ctx : Option String)
    (rt : Runtime) (command : TriggerWorkflowCommand) : App (Result TriggerWorkflowResult) := do
  let definition ← WorkflowDefinitionRepository.findById ctx rt.loadedAt command.definitionId
  match definition with
  | none => resultFail (.notFound "WorkflowDefinition" command.definitionId)
  | some definition =>
    if ¬ definition.isActive then
      resultFail (.error s!"Workflow definition '{definition.definitionId}' is not active")
    else do
      let execution := WorkflowExecutionEntity.create rt.generateId rt.now
        definition.definitionId command.tenantId command.correlationId
        (command.actorId.getD "system") command.triggerType command.input
      let saved ← WorkflowExecutionRepository.save ctx rt execution
      publish (workflowTriggered rt.occurredAt command definition saved)
      resultOk ⟨saved.executionId, saved.definitionId, saved.status.text⟩

/-! ## CancelWorkflowExecution -/

structure CancelWorkflowExecutionCommand where
  executionId : String
  reason : Option String
  tenantId : String
  correlationId : String
  actorId : Option String
deriving DecidableEq

def CancelWorkflowExecutionHandler.execute (ctx : Option String) (rt : Runtime)
    (command : CancelWorkflowExecutionCommand) : App (Result WorkflowExecutionDto) := do
  let execution ← WorkflowExecutionRepository.findById ctx rt.loadedAt command.executionId
  match execution with
  | none => resultFail (.notFound "WorkflowExecution" command.executionId)
  | some execution => do
      let execution ← .lift (execution.cancel rt.now command.reason)
      let saved ← WorkflowExecutionRepository.save ctx rt execution
      resultOk (WorkflowExecutionDto.fromEntity saved)

/-! ## Queries -/

structure GetWorkflowExecutionQuery where
  tenantId : String
  correlationId : String
  executionId : String
deriving DecidableEq

def GetWorkflowExecutionHandler.execute (ctx : Option String) (rt : Runtime)
    (query : GetWorkflowExecutionQuery) : App (Result WorkflowExecutionDto) := do
  let execution ← WorkflowExecutionRepository.findById ctx rt.loadedAt query.executionId
  match execution with
  | none => resultFail (.notFound "WorkflowExecution" query.executionId)
  | some execution => resultOk (WorkflowExecutionDto.fromEntity execution)

structure ListWorkflowExecutionsQuery where
  tenantId : String
  correlationId : String
  status : Option WorkflowExecutionStatus
  page : Js.Number
  limit : Js.Number
deriving DecidableEq

def ListWorkflowExecutionsHandler.execute (ctx : Option String)
    (ties : Typeorm.Arrangement WorkflowExecutionOrmEntity) (rt : Runtime)
    (query : ListWorkflowExecutionsQuery) :
    App (Result (PaginatedResult WorkflowExecutionDto)) := do
  let result ← WorkflowExecutionRepository.findMany ctx ties rt.loadedAt query.status
    { page := some query.page, limit := some query.limit }
  resultOk { data := result.data.map WorkflowExecutionDto.fromEntity, «meta» := result.meta }

end Atlas
