import Atlas.Kernel
import Atlas.Pg

/-!
# Atlas.Audit.Event

Audit events: the entity, its row and the mapping between the two.
-/

namespace Atlas

open StoreKit

inductive AuditActorType where
  | user
  | api_key
  | system
deriving DecidableEq

def AuditActorType.text : AuditActorType → String
  | .user => "user"
  | .api_key => "api_key"
  | .system => "system"

inductive AuditOutcome where
  | success
  | failure
deriving DecidableEq

def AuditOutcome.text : AuditOutcome → String
  | .success => "success"
  | .failure => "failure"

structure AuditEventEntity where
  auditEventId : String
  tenantId : String
  actorId : Option String
  actorType : AuditActorType
  action : String
  resourceType : String
  resourceId : String
  outcome : AuditOutcome
  metadata : JsonObject
  correlationId : String
  ipAddress : Option String
  userAgent : Option String
  occurredAt : Js.Date
deriving DecidableEq

/-- A row of `audit_events`. -/
structure AuditEventOrmEntity where
  id : String
  tenantId : String
  actorId : Option String
  actorType : AuditActorType
  action : String
  resourceType : String
  resourceId : String
  outcome : AuditOutcome
  metadata : JsonObject
  correlationId : String
  ipAddress : Option String
  userAgent : Option String
  occurredAt : Js.Date
deriving DecidableEq

/-- What the columns make of a row, or `none` if one of them refuses its value.
`inet` is the column type of that name. -/
def AuditEventOrmEntity.stored (inet : String → Option String) (row : AuditEventOrmEntity) :
    Option AuditEventOrmEntity := do
  let id ← Pg.uuid row.id
  let tenantId ← Pg.uuid row.tenantId
  let actorId ← Pg.nullable Pg.uuid row.actorId
  let action ← Pg.varchar 100 row.action
  let resourceType ← Pg.varchar 100 row.resourceType
  let resourceId ← Pg.varchar 255 row.resourceId
  let metadata ← Pg.jsonObject row.metadata
  let correlationId ← Pg.uuid row.correlationId
  let ipAddress ← Pg.nullable inet row.ipAddress
  let userAgent ← Pg.nullable Pg.text row.userAgent
  let occurredAt ← Pg.timestamptz row.occurredAt
  some { row with id, tenantId, actorId, action, resourceType, resourceId, metadata, correlationId,
                  ipAddress, userAgent, occurredAt }

/-- The keys are stored in their normal form. -/
theorem AuditEventOrmEntity.storedAs {inet : String → Option String}
    {row row' : AuditEventOrmEntity} (h : row.stored inet = some row') :
    Pg.uuid row.id = some row'.id ∧ Pg.uuid row.tenantId = some row'.tenantId := by
  obtain ⟨id, hid, h⟩ := Option.bind_eq_some_iff.mp h
  obtain ⟨tenantId, htenant, h⟩ := Option.bind_eq_some_iff.mp h
  obtain ⟨_, -, h⟩ := Option.bind_eq_some_iff.mp h
  obtain ⟨_, -, h⟩ := Option.bind_eq_some_iff.mp h
  obtain ⟨_, -, h⟩ := Option.bind_eq_some_iff.mp h
  obtain ⟨_, -, h⟩ := Option.bind_eq_some_iff.mp h
  obtain ⟨_, -, h⟩ := Option.bind_eq_some_iff.mp h
  obtain ⟨_, -, h⟩ := Option.bind_eq_some_iff.mp h
  obtain ⟨_, -, h⟩ := Option.bind_eq_some_iff.mp h
  obtain ⟨_, -, h⟩ := Option.bind_eq_some_iff.mp h
  obtain ⟨_, -, h⟩ := Option.bind_eq_some_iff.mp h
  obtain rfl := Option.some.inj h
  exact ⟨hid, htenant⟩

end Atlas
