import Atlas.Events
import Atlas.Pg
import Atlas.Lib.Table

/-!
# Atlas.Outbox.Entry

The outbox entry: the entity, the row it is stored as, and the repository over
the `outbox_entries` table.

An entity is an in-memory copy of a row.  `OutboxEntryRepository.save` writes
the whole copy back, so what a copy carries besides its status matters:
`Row.frozen` is everything in a row that neither `markProcessed` nor
`recordAttemptFailure` touches.
-/

namespace Atlas

open StoreKit

inductive OutboxEntryStatus where
  | pending
  | processed
  | failed
deriving DecidableEq

def OutboxEntryStatus.text : OutboxEntryStatus → String
  | .pending => "pending"
  | .processed => "processed"
  | .failed => "failed"

/-! ## The entity -/

structure OutboxEntryEntity where
  outboxEntryId : String
  eventId : String
  eventType : String
  eventVersion : Js.Double
  tenantId : String
  correlationId : String
  actorId : Option String
  causationId : Option String
  traceId : Option String
  sourceService : String
  sourceVersion : Option String
  payload : JsonObject
  status : OutboxEntryStatus
  attempts : Nat
  lastError : Option String
  occurredAt : Js.Date
  createdAt : Js.Date
  processedAt : Option Js.Date
deriving DecidableEq

/-- What `OutboxEntryEntity.create` is given. -/
structure OutboxEntryParams where
  eventId : String
  eventType : String
  eventVersion : Js.Double
  tenantId : String
  correlationId : String
  actorId : Option String
  causationId : Option String
  traceId : Option String
  sourceService : String
  sourceVersion : Option String
  payload : JsonObject
  lastError : Option String := none
  occurredAt : Js.Date
  processedAt : Option Js.Date := none
deriving DecidableEq

namespace OutboxEntryEntity

/-- A new entry, with the id and the instant the runtime hands out. -/
def create (generateId : String) (now : Js.Date) (params : OutboxEntryParams) :
    OutboxEntryEntity where
  outboxEntryId := generateId
  eventId := params.eventId
  eventType := params.eventType
  eventVersion := params.eventVersion
  tenantId := params.tenantId
  correlationId := params.correlationId
  actorId := params.actorId
  causationId := params.causationId
  traceId := params.traceId
  sourceService := params.sourceService
  sourceVersion := params.sourceVersion
  payload := params.payload
  status := .pending
  attempts := 0
  lastError := params.lastError
  occurredAt := params.occurredAt
  createdAt := now
  processedAt := params.processedAt

def markProcessed (entry : OutboxEntryEntity) (now : Js.Date) : OutboxEntryEntity :=
  { entry with status := .processed, processedAt := some now }

def recordAttemptFailure (entry : OutboxEntryEntity) (error : String) (maxAttempts : Nat) :
    OutboxEntryEntity :=
  { entry with
    attempts := entry.attempts + 1
    lastError := some error
    status := if entry.attempts + 1 ≥ maxAttempts then .failed else entry.status }

end OutboxEntryEntity

/-! ## The row -/

/-- A row of `outbox_entries`. -/
structure OutboxEntryOrmEntity where
  id : String
  eventId : String
  eventType : String
  eventVersion : Js.Double
  tenantId : String
  correlationId : String
  actorId : Option String
  causationId : Option String
  traceId : Option String
  sourceService : String
  sourceVersion : Option String
  payload : JsonObject
  status : OutboxEntryStatus
  attempts : Nat
  lastError : Option String
  occurredAt : Js.Date
  createdAt : Js.Date
  processedAt : Option Js.Date
deriving DecidableEq

/-- What never changes in a row: ids, type, version, tenant, correlation, actor,
causation, trace, source, payload and the two instants. -/
structure OutboxEntryFrozen where
  id : String
  eventId : String
  eventType : String
  eventVersion : Js.Double
  tenantId : String
  correlationId : String
  actorId : Option String
  causationId : Option String
  traceId : Option String
  sourceService : String
  sourceVersion : Option String
  payload : JsonObject
  occurredAt : Js.Date
  createdAt : Js.Date
deriving DecidableEq

def OutboxEntryOrmEntity.frozen (row : OutboxEntryOrmEntity) : OutboxEntryFrozen where
  id := row.id
  eventId := row.eventId
  eventType := row.eventType
  eventVersion := row.eventVersion
  tenantId := row.tenantId
  correlationId := row.correlationId
  actorId := row.actorId
  causationId := row.causationId
  traceId := row.traceId
  sourceService := row.sourceService
  sourceVersion := row.sourceVersion
  payload := row.payload
  occurredAt := row.occurredAt
  createdAt := row.createdAt

/-- What the columns make of a row, or `none` if one of them refuses its value. -/
def OutboxEntryOrmEntity.stored (row : OutboxEntryOrmEntity) : Option OutboxEntryOrmEntity := do
  let id ← Pg.uuid row.id
  let eventId ← Pg.uuid row.eventId
  let eventType ← Pg.varchar 150 row.eventType
  let eventVersion ← Pg.int4OfNumber row.eventVersion
  let tenantId ← Pg.uuid row.tenantId
  let correlationId ← Pg.uuid row.correlationId
  let actorId ← Pg.nullable Pg.text row.actorId
  let causationId ← Pg.nullable Pg.text row.causationId
  let traceId ← Pg.nullable Pg.text row.traceId
  let sourceService ← Pg.text row.sourceService
  let sourceVersion ← Pg.nullable Pg.text row.sourceVersion
  let payload ← Pg.jsonObject row.payload
  let _ ← Pg.int4 row.attempts
  let lastError ← Pg.nullable Pg.text row.lastError
  let occurredAt ← Pg.timestamptz row.occurredAt
  let createdAt ← Pg.timestamptz row.createdAt
  let processedAt ← Pg.nullable Pg.timestamptz row.processedAt
  some { row with id, eventId, eventType, eventVersion, tenantId, correlationId, actorId,
                  causationId, traceId, sourceService, sourceVersion, payload, lastError,
                  occurredAt, createdAt, processedAt }

/-- The `outbox_entries` table. -/
abbrev OutboxTable := Table String OutboxEntryOrmEntity OutboxEntryOrmEntity.id

/-! ## The repository -/

namespace OutboxEntryRepository

def toDomain (orm : OutboxEntryOrmEntity) : OutboxEntryEntity where
  outboxEntryId := orm.id
  eventId := orm.eventId
  eventType := orm.eventType
  eventVersion := orm.eventVersion
  tenantId := orm.tenantId
  correlationId := orm.correlationId
  actorId := orm.actorId
  causationId := orm.causationId
  traceId := orm.traceId
  sourceService := orm.sourceService
  sourceVersion := orm.sourceVersion
  payload := orm.payload
  status := orm.status
  attempts := orm.attempts
  lastError := orm.lastError
  occurredAt := orm.occurredAt
  createdAt := orm.createdAt
  processedAt := orm.processedAt

def toOrm (entity : OutboxEntryEntity) : OutboxEntryOrmEntity where
  id := entity.outboxEntryId
  eventId := entity.eventId
  eventType := entity.eventType
  eventVersion := entity.eventVersion
  tenantId := entity.tenantId
  correlationId := entity.correlationId
  actorId := entity.actorId
  causationId := entity.causationId
  traceId := entity.traceId
  sourceService := entity.sourceService
  sourceVersion := entity.sourceVersion
  payload := entity.payload
  status := entity.status
  attempts := entity.attempts
  lastError := entity.lastError
  occurredAt := entity.occurredAt
  createdAt := entity.createdAt
  processedAt := entity.processedAt

@[simp] theorem toOrm_toDomain (row : OutboxEntryOrmEntity) : toOrm (toDomain row) = row := rfl

@[simp] theorem toOrm_id (entity : OutboxEntryEntity) :
    (toOrm entity).id = entity.outboxEntryId := rfl

@[simp] theorem toDomain_outboxEntryId (row : OutboxEntryOrmEntity) :
    (toDomain row).outboxEntryId = row.id := rfl

/-- `insert`: refused when a column refuses its value or when the id is taken.
The migrations index `event_id`; the unique constraint that the class declares
on it they do not create. -/
def append (table : OutboxTable) (entry : OutboxEntryEntity) : Option OutboxTable :=
  (toOrm entry).stored.bind table.insert?

/-- An accepted insert adds the stored form of the entry, under a new id, at the end. -/
theorem append_cases {table table' : OutboxTable} {entry : OutboxEntryEntity}
    (h : append table entry = some table') :
    ∃ row, (toOrm entry).stored = some row ∧ table'.rows = table.rows ++ [row] ∧
      row.id ∉ table.rows.map OutboxEntryOrmEntity.id := by
  obtain ⟨row, hrow, hinsert⟩ := Option.bind_eq_some_iff.mp h
  have hid : row.id ∉ table.rows.map OutboxEntryOrmEntity.id := by
    apply Table.not_mem_keys_of_insertAll? hinsert
    simp
  exact ⟨row, hrow, Table.rows_of_insert? hinsert, hid⟩

/-- The answers `find` may give for `where status = 'pending' order by createdAt
ASC limit n`.  Rows of one instant come in no particular order, and the limit
may fall between them. -/
structure FindPending (table : OutboxTable) (limit : Nat) (page : List OutboxEntryOrmEntity) :
    Prop where
  pending : ∀ r ∈ page, r ∈ table.rows ∧ r.status = .pending
  distinct : (page.map OutboxEntryOrmEntity.id).Nodup
  sorted : page.Pairwise fun r r' => r.createdAt ≤ r'.createdAt
  full : page.length = min limit (table.rows.countP fun r => r.status = .pending)
  oldest : ∀ r ∈ table.rows, r.status = .pending → r ∉ page →
    ∀ r' ∈ page, r'.createdAt ≤ r.createdAt

instance (table : OutboxTable) (limit : Nat) (page : List OutboxEntryOrmEntity) :
    Decidable (FindPending table limit page) :=
  decidable_of_iff
    ((∀ r ∈ page, r ∈ table.rows ∧ r.status = .pending) ∧
      (page.map OutboxEntryOrmEntity.id).Nodup ∧
      (page.Pairwise fun r r' => r.createdAt ≤ r'.createdAt) ∧
      page.length = min limit (table.rows.countP fun r => r.status = .pending) ∧
      ∀ r ∈ table.rows, r.status = .pending → r ∉ page → ∀ r' ∈ page, r'.createdAt ≤ r.createdAt)
    ⟨fun ⟨h₁, h₂, h₃, h₄, h₅⟩ => ⟨h₁, h₂, h₃, h₄, h₅⟩,
     fun h => ⟨h.pending, h.distinct, h.sorted, h.full, h.oldest⟩⟩

/-- `save` over a row that is still there writes every column of the copy. -/
def save (table : OutboxTable) (entry : OutboxEntryEntity) : OutboxTable :=
  table.put (toOrm entry)

end OutboxEntryRepository

/-! ## What the transitions keep -/

open OutboxEntryRepository

@[simp] theorem frozen_markProcessed (entry : OutboxEntryEntity) (now : Js.Date) :
    (toOrm (entry.markProcessed now)).frozen = (toOrm entry).frozen := rfl

@[simp] theorem frozen_recordAttemptFailure (entry : OutboxEntryEntity) (error : String)
    (maxAttempts : Nat) :
    (toOrm (entry.recordAttemptFailure error maxAttempts)).frozen = (toOrm entry).frozen := rfl

/-- Entries that agree in what never changes are one entry. -/
theorem frozen_id {row row' : OutboxEntryOrmEntity} (h : row.frozen = row'.frozen) :
    row.id = row'.id := congrArg OutboxEntryFrozen.id h

/-- Column by column, what is stored for a row. -/
structure StoredAs (row row' : OutboxEntryOrmEntity) : Prop where
  eventId : Pg.uuid row.eventId = some row'.eventId
  eventType : Pg.varchar 150 row.eventType = some row'.eventType
  eventVersion : Pg.int4OfNumber row.eventVersion = some row'.eventVersion
  tenantId : Pg.uuid row.tenantId = some row'.tenantId
  correlationId : Pg.uuid row.correlationId = some row'.correlationId
  actorId : Pg.nullable Pg.text row.actorId = some row'.actorId
  causationId : Pg.nullable Pg.text row.causationId = some row'.causationId
  traceId : Pg.nullable Pg.text row.traceId = some row'.traceId
  sourceService : Pg.text row.sourceService = some row'.sourceService
  sourceVersion : Pg.nullable Pg.text row.sourceVersion = some row'.sourceVersion
  payload : Pg.jsonObject row.payload = some row'.payload
  status : row'.status = row.status
  attempts : row'.attempts = row.attempts

/-- What is stored under a row's own id and instant of creation is stored alike
under any other. -/
theorem stored_cases {row row' : OutboxEntryOrmEntity} (h : row.stored = some row') :
    StoredAs row row' ∧ Pg.uuid row.id = some row'.id ∧
      Pg.timestamptz row.createdAt = some row'.createdAt ∧
      ∀ id createdAt, Pg.uuid id = some id → Pg.timestamptz createdAt = some createdAt →
        { row with id, createdAt }.stored = some { row' with id, createdAt } := by
  obtain ⟨id, hid, h⟩ := Option.bind_eq_some_iff.mp h
  obtain ⟨eventId, heventId, h⟩ := Option.bind_eq_some_iff.mp h
  obtain ⟨eventType, heventType, h⟩ := Option.bind_eq_some_iff.mp h
  obtain ⟨eventVersion, heventVersion, h⟩ := Option.bind_eq_some_iff.mp h
  obtain ⟨tenantId, htenantId, h⟩ := Option.bind_eq_some_iff.mp h
  obtain ⟨correlationId, hcorrelationId, h⟩ := Option.bind_eq_some_iff.mp h
  obtain ⟨actorId, hactorId, h⟩ := Option.bind_eq_some_iff.mp h
  obtain ⟨causationId, hcausationId, h⟩ := Option.bind_eq_some_iff.mp h
  obtain ⟨traceId, htraceId, h⟩ := Option.bind_eq_some_iff.mp h
  obtain ⟨sourceService, hsourceService, h⟩ := Option.bind_eq_some_iff.mp h
  obtain ⟨sourceVersion, hsourceVersion, h⟩ := Option.bind_eq_some_iff.mp h
  obtain ⟨payload, hpayload, h⟩ := Option.bind_eq_some_iff.mp h
  obtain ⟨_, hattempts, h⟩ := Option.bind_eq_some_iff.mp h
  obtain ⟨lastError, hlastError, h⟩ := Option.bind_eq_some_iff.mp h
  obtain ⟨occurredAt, hoccurredAt, h⟩ := Option.bind_eq_some_iff.mp h
  obtain ⟨createdAt, hcreatedAt, h⟩ := Option.bind_eq_some_iff.mp h
  obtain ⟨processedAt, hprocessedAt, h⟩ := Option.bind_eq_some_iff.mp h
  obtain rfl := Option.some.inj h
  refine ⟨⟨heventId, heventType, heventVersion, htenantId, hcorrelationId, hactorId, hcausationId,
    htraceId, hsourceService, hsourceVersion, hpayload, rfl, rfl⟩, hid, hcreatedAt, ?_⟩
  intro id' createdAt' hid' hcreatedAt'
  simp only [OutboxEntryOrmEntity.stored, hid', heventId, heventType, heventVersion, htenantId,
    hcorrelationId, hactorId, hcausationId, htraceId, hsourceService, hsourceVersion, hpayload,
    hattempts, hlastError, hoccurredAt, hcreatedAt', hprocessedAt, Option.bind_eq_bind,
    Option.bind_some]

/-- A row that is stored is stored as the columns have it. -/
theorem storedAs_of_stored {row row' : OutboxEntryOrmEntity} (h : row.stored = some row') :
    StoredAs row row' := (stored_cases h).1

end Atlas
