import Atlas.Double
import Atlas.Lib.Json

/-!
# Atlas.Events

The canonical envelope of platform events.
-/

namespace Atlas

open StoreKit

/-- `Record<string, unknown>`, as far as it is JSON. -/
abbrev JsonObject := List (String × Json)

/-- The envelope every event that crosses a module boundary travels in. -/
structure TenantAwareEvent where
  eventId : String
  eventType : String
  eventVersion : Js.Double
  tenantId : String
  correlationId : String
  actorId : Option String
  causationId : Option String
  traceId : Option String
  sourceService : String
  sourceVersion : Option String
  /-- ISO-8601 -/
  occurredAt : String
  payload : JsonObject
  -- Only on events created by a replay.
  isReplay : Option Bool
  replayId : Option String
  replayedAt : Option String
  replayReason : Option String
  replaySourceEventId : Option String
deriving DecidableEq

def TENANT_CREATED : String := "tenant.created"
def TENANT_SUSPENDED : String := "tenant.suspended"
def USER_REGISTERED : String := "identity.user.registered"
def AUDIT_EVENT_RECORDED : String := "audit.event.recorded"
def WORKFLOW_TRIGGERED : String := "workflow.execution.triggered"
def WORKFLOW_COMPLETED : String := "workflow.execution.completed"

end Atlas
