import Atlas.Audit.Repository
import Atlas.TenantCore.Handlers

/-!
# Atlas.Audit.Handlers

Recording an audit event.
-/

namespace Atlas

open StoreKit

structure RecordAuditEventCommand where
  tenantId : String
  correlationId : String
  actorId : Option String
  actorType : AuditActorType
  action : String
  resourceType : String
  resourceId : String
  outcome : AuditOutcome
  metadata : JsonObject
  ipAddress : Option String
  userAgent : Option String
deriving DecidableEq

/-- `AuditEventEntity.create`, with the id and the instant the runtime hands
out. -/
def AuditEventEntity.create (generateId : String) (occurredAt : Js.Date)
    (command : RecordAuditEventCommand) : AuditEventEntity where
  auditEventId := generateId
  tenantId := command.tenantId
  actorId := command.actorId
  actorType := command.actorType
  action := command.action
  resourceType := command.resourceType
  resourceId := command.resourceId
  outcome := command.outcome
  metadata := command.metadata
  correlationId := command.correlationId
  ipAddress := command.ipAddress
  userAgent := command.userAgent
  occurredAt := occurredAt

/-- The event a recorded audit event is announced with. -/
def auditEventRecorded (saved : AuditEventEntity) : TenantAwareEvent where
  eventId := saved.auditEventId
  eventType := AUDIT_EVENT_RECORDED
  eventVersion := 1
  tenantId := saved.tenantId
  correlationId := saved.correlationId
  actorId := saved.actorId
  causationId := none
  traceId := none
  sourceService := "atlas-saas-platform"
  sourceVersion := none
  occurredAt := Js.toISOString saved.occurredAt
  payload := [("auditEventId", .str saved.auditEventId), ("action", .str saved.action),
    ("resourceType", .str saved.resourceType), ("resourceId", .str saved.resourceId),
    ("outcome", .str saved.outcome.text), ("metadata", .obj saved.metadata)]
  isReplay := none
  replayId := none
  replayedAt := none
  replayReason := none
  replaySourceEventId := none

def RecordAuditEventHandler.execute (publish : TenantAwareEvent → App Unit)
    (inet : String → Option String) (ctx : Option String) (rt : Runtime)
    (command : RecordAuditEventCommand) : App (Result String) := do
  let auditEvent := AuditEventEntity.create rt.generateId rt.occurredAt command
  let saved ← AuditEventRepository.append inet ctx auditEvent
  publish (auditEventRecorded saved)
  resultOk saved.auditEventId

end Atlas
