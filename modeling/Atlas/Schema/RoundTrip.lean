import Atlas.Audit.Repository
import Atlas.Outbox.Invariant
import Atlas.Schema.Migrations
import Atlas.Workflow.Repository

/-!
# Atlas.Schema.RoundTrip

The entity classes over the migrated tables.

A property whose `@Column` gives no name is mapped to the column of its own
name, `tenantId` to `"tenantId"`.  The migrations name their columns
`tenant_id`, and `outbox_entries` lacks six of the columns that its class maps.
Every statement of the four repositories names a column that does not exist
(`missing_unknown`), and is refused.
-/

namespace Atlas

open StoreKit TenantAwareRepository

namespace Schema

/-! ## The entity classes -/

def OutboxEntryOrmEntity.mapping : Mapping OutboxEntryOrmEntity Value where
  relation := "outbox_entries"
  key := ⟨"id", none, fun orm => some (.text orm.id)⟩
  others := [
    ⟨"eventId", some "event_id", fun orm => some (.text orm.eventId)⟩,
    ⟨"eventType", some "event_type", fun orm => some (.text orm.eventType)⟩,
    ⟨"eventVersion", some "event_version", fun orm => some (.number orm.eventVersion)⟩,
    ⟨"tenantId", some "tenant_id", fun orm => some (.text orm.tenantId)⟩,
    ⟨"correlationId", some "correlation_id", fun orm => some (.text orm.correlationId)⟩,
    ⟨"actorId", some "actor_id", fun orm => orm.actorId.map .text⟩,
    ⟨"causationId", some "causation_id", fun orm => orm.causationId.map .text⟩,
    ⟨"traceId", some "trace_id", fun orm => orm.traceId.map .text⟩,
    ⟨"sourceService", some "source_service", fun orm => some (.text orm.sourceService)⟩,
    ⟨"sourceVersion", some "source_version", fun orm => orm.sourceVersion.map .text⟩,
    ⟨"payload", none, fun orm => some (.json (.obj orm.payload))⟩,
    ⟨"status", none, fun orm => some (.text orm.status.text)⟩,
    ⟨"attempts", none, fun orm => some (.integer orm.attempts)⟩,
    ⟨"lastError", some "last_error", fun orm => orm.lastError.map .text⟩,
    ⟨"occurredAt", some "occurred_at", fun orm => some (.instant orm.occurredAt)⟩,
    ⟨"createdAt", some "created_at", fun orm => some (.instant orm.createdAt)⟩,
    ⟨"processedAt", some "processed_at", fun orm => orm.processedAt.map .instant⟩]

def AuditEventOrmEntity.mapping : Mapping AuditEventOrmEntity Value where
  relation := "audit_events"
  key := ⟨"id", none, fun orm => some (.text orm.id)⟩
  others := [
    ⟨"tenantId", none, fun orm => some (.text orm.tenantId)⟩,
    ⟨"actorId", none, fun orm => orm.actorId.map .text⟩,
    ⟨"actorType", none, fun orm => some (.text orm.actorType.text)⟩,
    ⟨"action", none, fun orm => some (.text orm.action)⟩,
    ⟨"resourceType", some "resource_type", fun orm => some (.text orm.resourceType)⟩,
    ⟨"resourceId", some "resource_id", fun orm => some (.text orm.resourceId)⟩,
    ⟨"outcome", none, fun orm => some (.text orm.outcome.text)⟩,
    ⟨"metadata", none, fun orm => some (.json (.obj orm.metadata))⟩,
    ⟨"correlationId", some "correlation_id", fun orm => some (.text orm.correlationId)⟩,
    ⟨"ipAddress", some "ip_address", fun orm => orm.ipAddress.map .text⟩,
    ⟨"userAgent", some "user_agent", fun orm => orm.userAgent.map .text⟩,
    ⟨"occurredAt", some "occurred_at", fun orm => some (.instant orm.occurredAt)⟩]

def WorkflowDefinitionOrmEntity.mapping : Mapping WorkflowDefinitionOrmEntity Value where
  relation := "workflow_definitions"
  key := ⟨"id", none, fun orm => some (.text orm.id)⟩
  others := [
    ⟨"tenantId", none, fun orm => some (.text orm.tenantId)⟩,
    ⟨"name", none, fun orm => some (.text orm.name)⟩,
    ⟨"description", none, fun orm => orm.description.map .text⟩,
    ⟨"trigger", none, fun orm => some (.json orm.trigger.toJson)⟩,
    ⟨"steps", none, fun orm => some (.json (.arr (orm.steps.map WorkflowStep.toJson)))⟩,
    ⟨"version", none, fun orm => some (.number orm.version)⟩,
    ⟨"status", none, fun orm => some (.text orm.status.text)⟩,
    ⟨"createdBy", none, fun orm => some (.text orm.createdBy)⟩,
    ⟨"createdAt", some "created_at", fun orm => orm.createdAt.map .instant⟩,
    ⟨"updatedAt", some "updated_at", fun orm => orm.updatedAt.map .instant⟩]

def WorkflowExecutionOrmEntity.mapping : Mapping WorkflowExecutionOrmEntity Value where
  relation := "workflow_executions"
  key := ⟨"id", none, fun orm => some (.text orm.id)⟩
  others := [
    ⟨"definitionId", none, fun orm => some (.text orm.definitionId)⟩,
    ⟨"tenantId", none, fun orm => some (.text orm.tenantId)⟩,
    ⟨"correlationId", none, fun orm => some (.text orm.correlationId)⟩,
    ⟨"triggeredBy", none, fun orm => some (.text orm.triggeredBy)⟩,
    ⟨"triggerType", none, fun orm => some (.text orm.triggerType.text)⟩,
    ⟨"input", none, fun orm => some (.json (.obj orm.input))⟩,
    ⟨"status", none, fun orm => some (.text orm.status.text)⟩,
    ⟨"stepResults", none,
      fun orm => some (.json (.arr (orm.stepResults.map WorkflowStepResult.toJson)))⟩,
    ⟨"startedAt", none, fun orm => orm.startedAt.map .instant⟩,
    ⟨"completedAt", none, fun orm => orm.completedAt.map .instant⟩,
    ⟨"durationMs", none, fun orm => orm.durationMs.map fun n => .integer n⟩,
    ⟨"errorMessage", none, fun orm => orm.errorMessage.map .text⟩,
    ⟨"createdAt", some "created_at", fun orm => orm.createdAt.map .instant⟩,
    ⟨"updatedAt", some "updated_at", fun orm => orm.updatedAt.map .instant⟩]

/-! ## What the repositories send -/

/-- What the database answers to a statement. -/
def answer {α : Type} : Option α → Except Exception α
  | some a => .ok a
  | none => .error .database

variable {ρ : Type} (server : Server) (db : Database)

/-- `repo.insert(orm)`. -/
def insert (m : Mapping ρ Value) (orm : ρ) : Except Exception Database :=
  answer do
    let r ← db.table? m.relation
    let r' ← m.insert server.columns (db.allowed r) r orm
    return db.put r'

/-- `repo.save(orm)`. -/
def save (m : Mapping ρ Value) (orm : ρ) : Except Exception Database :=
  answer do
    let r ← db.table? m.relation
    let r' ← m.save server.columns (db.allowed r) r orm
    return db.put r'

/-- `repo.find({ where })`. -/
def find (m : Mapping ρ Value) (conditions : Record Value) :
    Except Exception (List (Record Value)) :=
  answer do
    let r ← db.table? m.relation
    m.find server.columns r conditions

/-- What a guard answers.  It asks nothing of the rows. -/
def guarded {α : Type} (guard : App α) : Except Exception α := (guard.run emptyWorld).1

/-- `repo.findOne({ where: this.scopedWhere({ id }) })`. -/
def findScoped (m : Mapping ρ Value) (name : String) (ctx : Option String) (id : String) :
    Except Exception (Option (Record Value)) := do
  let tenantId ← guarded (requireTenantId name ctx)
  let objects ← find server db m [("tenantId", .text tenantId), ("id", .text id)]
  return objects.head?

namespace OutboxEntryRepository

def append (entry : OutboxEntryEntity) : Except Exception Database :=
  insert server db OutboxEntryOrmEntity.mapping (Atlas.OutboxEntryRepository.toOrm entry)

def createdAt (object : Record Value) : Js.Date :=
  match object.lookup "createdAt" with
  | some (.instant t) => t
  | _ => 0

def findPending (ties : Typeorm.Arrangement (Record Value)) (limit : Nat) :
    Except Exception (List (Record Value)) := do
  let objects ← find server db OutboxEntryOrmEntity.mapping [("status", .text "pending")]
  return ((ties.arrange objects).insertionSort fun a b => createdAt a ≤ createdAt b).take limit

end OutboxEntryRepository

namespace AuditEventRepository

def append (ctx : Option String) (event : AuditEventEntity) : Except Exception Database := do
  guarded (guardTenantOwnership Atlas.AuditEventRepository.name ctx event.tenantId)
  insert server db AuditEventOrmEntity.mapping (Atlas.AuditEventRepository.toOrm event)

def findById (ctx : Option String) (id : String) : Except Exception (Option (Record Value)) :=
  findScoped server db AuditEventOrmEntity.mapping Atlas.AuditEventRepository.name ctx id

end AuditEventRepository

namespace WorkflowDefinitionRepository

def save (ctx : Option String) (definition : WorkflowDefinitionEntity) :
    Except Exception Database := do
  guarded (guardTenantOwnership Atlas.WorkflowDefinitionRepository.name ctx definition.tenantId)
  Schema.save server db WorkflowDefinitionOrmEntity.mapping
    (Atlas.WorkflowDefinitionRepository.toOrm definition)

def findById (ctx : Option String) (id : String) : Except Exception (Option (Record Value)) :=
  findScoped server db WorkflowDefinitionOrmEntity.mapping Atlas.WorkflowDefinitionRepository.name
    ctx id

end WorkflowDefinitionRepository

namespace WorkflowExecutionRepository

def save (ctx : Option String) (execution : WorkflowExecutionEntity) :
    Except Exception Database := do
  guarded (guardTenantOwnership Atlas.WorkflowExecutionRepository.name ctx execution.tenantId)
  Schema.save server db WorkflowExecutionOrmEntity.mapping
    (Atlas.WorkflowExecutionRepository.toOrm execution)

def findById (ctx : Option String) (id : String) : Except Exception (Option (Record Value)) :=
  findScoped server db WorkflowExecutionOrmEntity.mapping Atlas.WorkflowExecutionRepository.name
    ctx id

end WorkflowExecutionRepository

/-! ## Writing and reading back -/

/-- An entity of one of the four kinds. -/
inductive Persisted where
  | outboxEntry (entry : OutboxEntryEntity)
  | auditEvent (event : AuditEventEntity)
  | workflowDefinition (definition : WorkflowDefinitionEntity)
  | workflowExecution (execution : WorkflowExecutionEntity)

namespace Persisted

def write (ctx : Option String) : Persisted → Except Exception Database
  | .outboxEntry entry => OutboxEntryRepository.append server db entry
  | .auditEvent event => AuditEventRepository.append server db ctx event
  | .workflowDefinition definition => WorkflowDefinitionRepository.save server db ctx definition
  | .workflowExecution execution => WorkflowExecutionRepository.save server db ctx execution

/-- The objects read back, among which the entity should be. -/
def read (ties : Typeorm.Arrangement (Record Value)) (limit : Nat) (ctx : Option String) :
    Persisted → Except Exception (List (Record Value))
  | .outboxEntry _ => OutboxEntryRepository.findPending server db ties limit
  | .auditEvent event => do
      let found ← AuditEventRepository.findById server db ctx event.auditEventId
      return found.toList
  | .workflowDefinition definition => do
      let found ← WorkflowDefinitionRepository.findById server db ctx definition.definitionId
      return found.toList
  | .workflowExecution execution => do
      let found ← WorkflowExecutionRepository.findById server db ctx execution.executionId
      return found.toList

/-- The values that `toOrm` gives an object.  `toDomain` copies each of them
back. -/
def copied : Persisted → Record Value
  | .outboxEntry entry => values OutboxEntryOrmEntity.mapping
      (Atlas.OutboxEntryRepository.toOrm entry)
  | .auditEvent event => values AuditEventOrmEntity.mapping
      (Atlas.AuditEventRepository.toOrm event)
  | .workflowDefinition definition => values WorkflowDefinitionOrmEntity.mapping
      (Atlas.WorkflowDefinitionRepository.toOrm definition)
  | .workflowExecution execution => values WorkflowExecutionOrmEntity.mapping
      (Atlas.WorkflowExecutionRepository.toOrm execution)
where
  values {ρ : Type} (m : Mapping ρ Value) (orm : ρ) : Record Value :=
    m.properties.filterMap fun p => (p.get orm).map fun value => (p.property, value)

end Persisted

/-- The entity is written, and read back with the values it has. -/
def RoundTrips (ties : Typeorm.Arrangement (Record Value)) (limit : Nat) (ctx : Option String)
    (entity : Persisted) : Prop :=
  ∃ db' objects, entity.write server db ctx = .ok db' ∧
    entity.read server db' ties limit ctx = .ok objects ∧
    ∃ object ∈ objects, ∀ value ∈ entity.copied, value ∈ object

/-! ## Columns that do not exist -/

/-- The class maps a property to a column that its table was not created with. -/
structure Unknown (m : Mapping ρ Value) (table : CreateTable) (column : String) : Prop where
  created : table ∈ initialSchema ++ addOutboxEntries
  relation : table.name = m.relation
  mapped : column ∈ m.columns
  absent : column ∉ table.columns.map ColumnDefinition.name

/-- `outbox_entries` has no column `event_version`. -/
theorem unknown_outboxEntry : Unknown OutboxEntryOrmEntity.mapping outbox_entries "event_version" where
  created := by simp [initialSchema, addOutboxEntries]
  relation := rfl
  mapped := by decide
  absent := by decide

/-- `audit_events` has no column `tenantId`. -/
theorem unknown_auditEvent : Unknown AuditEventOrmEntity.mapping audit_events "tenantId" where
  created := by simp [initialSchema, addOutboxEntries]
  relation := rfl
  mapped := by decide
  absent := by decide

/-- `workflow_definitions` has no column `tenantId`. -/
theorem unknown_workflowDefinition :
    Unknown WorkflowDefinitionOrmEntity.mapping workflow_definitions "tenantId" where
  created := by simp [initialSchema, addOutboxEntries]
  relation := rfl
  mapped := by decide
  absent := by decide

/-- `workflow_executions` has no column `definitionId`. -/
theorem unknown_workflowExecution :
    Unknown WorkflowExecutionOrmEntity.mapping workflow_executions "definitionId" where
  created := by simp [initialSchema, addOutboxEntries]
  relation := rfl
  mapped := by decide
  absent := by decide

section Refused

variable {server db} {m : Mapping ρ Value} {table : CreateTable} {column : String}

/-- The table of the class is there, and lacks the column. -/
theorem Unknown.lacking (h : Unknown m table column) (hdb : Migrated db) :
    ∃ r, db.table? m.relation = some r ∧ ∀ c ∈ r.columns, c.name ≠ column := by
  obtain ⟨r, hr, hcolumns⟩ := hdb table h.created
  rw [h.relation] at hr
  refine ⟨r, hr, fun c hc hname => h.absent ?_⟩
  rw [hcolumns] at hc
  exact hname ▸ List.mem_map_of_mem hc

/-- An insert names every column of the class, and is refused. -/
theorem insert_refused (h : Unknown m table column) (hdb : Migrated db) (orm : ρ) :
    insert server db m orm = .error .database := by
  obtain ⟨r, hr, hunknown⟩ := h.lacking hdb
  have hnone : m.insert server.columns (db.allowed r) r orm = none := by
    rw [Option.eq_none_iff_forall_ne_some]
    intro r' hr'
    obtain ⟨c, hc, hname⟩ := Mapping.has_of_insert hr' h.mapped
    exact hunknown c hc hname
  simp [insert, answer, hr, hnone]

/-- A save is refused where the mapping names a column that the migrations lack. -/
theorem save_refused (h : Unknown m table column) (hdb : Migrated db) (orm : ρ) :
    save server db m orm = .error .database := by
  obtain ⟨r, hr, hunknown⟩ := h.lacking hdb
  have hnone : m.save server.columns (db.allowed r) r orm = none := by
    rw [Option.eq_none_iff_forall_ne_some]
    intro r' hr'
    obtain ⟨c, hc, hname⟩ := Mapping.has_of_save hr' h.mapped
    exact hunknown c hc hname
  simp [save, answer, hr, hnone]

/-- A query is refused where the mapping names a column that the migrations lack. -/
theorem find_refused (h : Unknown m table column) (hdb : Migrated db) (conditions : Record Value) :
    find server db m conditions = .error .database := by
  obtain ⟨r, hr, hunknown⟩ := h.lacking hdb
  have hnone : m.find server.columns r conditions = none := by
    rw [Option.eq_none_iff_forall_ne_some]
    intro objects hobjects
    obtain ⟨c, hc, hname⟩ := Mapping.has_of_find hobjects h.mapped
    exact hunknown c hc hname
  simp [find, answer, hr, hnone]

/-- A scoped look-up on a table without the column is refused. -/
theorem findScoped_refused (h : Unknown m table column) (hdb : Migrated db) (name : String)
    (ctx : Option String) (id : String) : ∃ e, findScoped server db m name ctx id = .error e := by
  rw [findScoped]
  cases guarded (requireTenantId name ctx) with
  | ok tenantId =>
      show ∃ e, (find server db m _ >>= fun objects => pure objects.head?) = .error e
      rw [find_refused h hdb]
      exact ⟨.database, rfl⟩
  | error e => exact ⟨e, rfl⟩

/-- What is not guarded away is refused. -/
theorem guarded_refused {α β : Type} (guard : App α) (e : Exception) :
    ∃ e', (guarded guard >>= fun _ => (.error e : Except Exception β)) = .error e' := by
  cases guarded guard with
  | ok a => exact ⟨e, rfl⟩
  | error e' => exact ⟨e', rfl⟩

end Refused

/-- **No entity is ever written to the migrated tables.** -/
theorem write_refused (ctx : Option String) (entity : Persisted) (h : Migrated db) :
    ∃ e, entity.write server db ctx = .error e := by
  cases entity with
  | outboxEntry entry => exact ⟨_, insert_refused unknown_outboxEntry h _⟩
  | auditEvent event =>
      rw [Persisted.write, AuditEventRepository.append, insert_refused unknown_auditEvent h]
      exact guarded_refused _ _
  | workflowDefinition definition =>
      rw [Persisted.write, WorkflowDefinitionRepository.save,
        save_refused unknown_workflowDefinition h]
      exact guarded_refused _ _
  | workflowExecution execution =>
      rw [Persisted.write, WorkflowExecutionRepository.save,
        save_refused unknown_workflowExecution h]
      exact guarded_refused _ _

/-- **No entity is ever read from the migrated tables.** -/
theorem read_refused (ties : Typeorm.Arrangement (Record Value)) (limit : Nat)
    (ctx : Option String) (entity : Persisted) (h : Migrated db) :
    ∃ e, entity.read server db ties limit ctx = .error e := by
  cases entity with
  | outboxEntry entry =>
      rw [Persisted.read, OutboxEntryRepository.findPending, find_refused unknown_outboxEntry h]
      exact ⟨.database, rfl⟩
  | auditEvent event =>
      obtain ⟨e, hfind⟩ := findScoped_refused unknown_auditEvent h _ ctx event.auditEventId
      rw [Persisted.read, AuditEventRepository.findById, hfind]
      exact ⟨e, rfl⟩
  | workflowDefinition definition =>
      obtain ⟨e, hfind⟩ :=
        findScoped_refused unknown_workflowDefinition h _ ctx definition.definitionId
      rw [Persisted.read, WorkflowDefinitionRepository.findById, hfind]
      exact ⟨e, rfl⟩
  | workflowExecution execution =>
      obtain ⟨e, hfind⟩ :=
        findScoped_refused unknown_workflowExecution h _ ctx execution.executionId
      rw [Persisted.read, WorkflowExecutionRepository.findById, hfind]
      exact ⟨e, rfl⟩

/-- **No entity round-trips over the migrated tables.** -/
theorem never_round_trips (ties : Typeorm.Arrangement (Record Value)) (limit : Nat)
    (ctx : Option String) (entity : Persisted) (h : Migrated db) :
    ¬ RoundTrips server db ties limit ctx entity := by
  rintro ⟨db', objects, hwrite, -⟩
  obtain ⟨e, hrefused⟩ := write_refused server db ctx entity h
  rw [hrefused] at hwrite
  cases hwrite

/-- What the columns of the class make of the entity's row is the row itself. -/
def Persisted.Fits (inet : String → Option String) : Persisted → Prop
  | .outboxEntry entry =>
      let orm := Atlas.OutboxEntryRepository.toOrm entry
      orm.stored = some orm
  | .auditEvent event =>
      let orm := Atlas.AuditEventRepository.toOrm event
      orm.stored inet = some orm
  | .workflowDefinition definition =>
      let orm := Atlas.WorkflowDefinitionRepository.toOrm definition
      orm.stored = some orm
  | .workflowExecution execution =>
      let orm := Atlas.WorkflowExecutionRepository.toOrm execution
      orm.stored = some orm

def sampleServer : Server := ⟨fun _ => none, Pg.uuidOf 15, 1716500000000⟩

def asTheyAre : Typeorm.Arrangement (Record Value) := ⟨fun rows => rows, fun rows => .refl rows⟩

theorem never_round_trips_entry :
    ¬ RoundTrips sampleServer migrated asTheyAre 10 none (.outboxEntry (.create (Pg.uuidOf 2)
      1716500000100 OutboxSystem.sampleParams)) :=
  never_round_trips sampleServer migrated asTheyAre 10 none _ migrated_migrated

/-- An entry whose values fit is refused by the new tables. -/
theorem entry_refused :
    ¬ ∀ (server : Server) (db : Database) (ties : Typeorm.Arrangement (Record Value))
      (limit : Nat) (ctx : Option String) (entity : Persisted),
      Migrated db → entity.Fits server.inet → 0 < limit →
      RoundTrips server db ties limit ctx entity := by
  intro hclaim
  have hround := hclaim sampleServer migrated asTheyAre 10 none
    (.outboxEntry (.create (Pg.uuidOf 2) 1716500000100 OutboxSystem.sampleParams)) migrated_migrated
    (by simp only [Persisted.Fits]; decide +kernel) (by decide)
  obtain ⟨db', objects, hwrite, -⟩ := hround
  have hrefused : OutboxEntryRepository.append sampleServer migrated (.create (Pg.uuidOf 2)
      1716500000100 OutboxSystem.sampleParams) = .error .database := insert_refused unknown_outboxEntry
    migrated_migrated _
  rw [Persisted.write, hrefused] at hwrite
  cases hwrite

end Schema

end Atlas
