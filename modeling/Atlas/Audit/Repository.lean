import Atlas.TenantAware

/-!
# Atlas.Audit.Repository

`AuditEventRepository`, which only inserts and reads.  `inet` is the column
type of the IP address.
-/

namespace Atlas

open StoreKit TenantAwareRepository

namespace AuditEventRepository

/-- The name in the messages. -/
def name : String := "AuditEventRepository"

def toDomain (orm : AuditEventOrmEntity) : AuditEventEntity where
  auditEventId := orm.id
  tenantId := orm.tenantId
  actorId := orm.actorId
  actorType := orm.actorType
  action := orm.action
  resourceType := orm.resourceType
  resourceId := orm.resourceId
  outcome := orm.outcome
  metadata := orm.metadata
  correlationId := orm.correlationId
  ipAddress := orm.ipAddress
  userAgent := orm.userAgent
  occurredAt := orm.occurredAt

def toOrm (entity : AuditEventEntity) : AuditEventOrmEntity where
  id := entity.auditEventId
  tenantId := entity.tenantId
  actorId := entity.actorId
  actorType := entity.actorType
  action := entity.action
  resourceType := entity.resourceType
  resourceId := entity.resourceId
  outcome := entity.outcome
  metadata := entity.metadata
  correlationId := entity.correlationId
  ipAddress := entity.ipAddress
  userAgent := entity.userAgent
  occurredAt := entity.occurredAt

/-- `repo.insert(orms)`: all rows or none. -/
def insertOrms (inet : String → Option String) (orms : List AuditEventOrmEntity) : App Unit := do
  let rows ← written (orms.mapM (AuditEventOrmEntity.stored inet))
  let table ← .gets fun w => w.auditEvents.insertAll? rows
  let table ← written table
  .modify fun w => { w with auditEvents := table }

def append (inet : String → Option String) (ctx : Option String) (event : AuditEventEntity) :
    App AuditEventEntity := do
  guardTenantOwnership name ctx event.tenantId
  insertOrms inet [toOrm event]
  return event

/-- The events are all of the active tenant; the first that is not is named. -/
def checkTenants (tenantId : String) : List AuditEventEntity → App Unit
  | [] => pure ()
  | e :: events =>
    if e.tenantId ≠ tenantId then
      .reject (.error ("AuditEventRepository.appendBatch: mixed tenantIds — " ++
        s!"expected {tenantId}, got {e.tenantId}"))
    else checkTenants tenantId events

def appendBatch (inet : String → Option String) (ctx : Option String)
    (events : List AuditEventEntity) : App Unit := do
  if events = [] then return ()
  let tenantId ← requireTenantId name ctx
  checkTenants tenantId events
  insertOrms inet (events.map toOrm)

def findById (ctx : Option String) (id : String) : App (Option AuditEventEntity) := do
  let options ← scopedWhere name ctx { tenantId := none, id := some id }
  let orm ← findOne (fun w => w.auditEvents.rows) AuditEventOrmEntity.tenantId
    AuditEventOrmEntity.id options
  return orm.map toDomain

structure AuditEventFilter where
  actorId : Option String
  action : Option String
  resourceType : Option String
  resourceId : Option String
  outcome : Option AuditOutcome
  fromDate : Option Js.Date
  toDate : Option Js.Date
deriving DecidableEq

/-- A row meets the criteria of a filter, whose actor is given as the column
has it. -/
def AuditEventFilter.matches (filter : AuditEventFilter) (actorId : Option String)
    (row : AuditEventOrmEntity) : Bool :=
  actorId.all (row.actorId = some ·) &&
  (Js.truthy filter.action).all (row.action = ·) &&
  (Js.truthy filter.resourceType).all (row.resourceType = ·) &&
  (Js.truthy filter.resourceId).all (row.resourceId = ·) &&
  filter.outcome.all (row.outcome = ·) &&
  match filter.fromDate, filter.toDate with
  | some fromDate, some toDate => fromDate ≤ row.occurredAt && row.occurredAt ≤ toDate
  | _, _ => true

/-- The texts and instants of a filter, as the server takes them. -/
def AuditEventFilter.parameters (filter : AuditEventFilter) : Option Unit := do
  let _ ← Pg.nullable Pg.text (Js.truthy filter.action)
  let _ ← Pg.nullable Pg.text (Js.truthy filter.resourceType)
  let _ ← Pg.nullable Pg.text (Js.truthy filter.resourceId)
  match filter.fromDate, filter.toDate with
  | some fromDate, some toDate => do
      let _ ← Pg.timestamptz fromDate
      let _ ← Pg.timestamptz toDate
      some ()
  | _, _ => some ()

/-- `query`, with what the machine makes of the numbers. -/
def queryWith (arithmetic : Js.Arithmetic) (ctx : Option String)
    (ties : Typeorm.Arrangement AuditEventOrmEntity) (filter : AuditEventFilter)
    (options : PaginationOptions) : App (PaginatedResult AuditEventEntity) := do
  let page := options.page.getD 1
  let limit := (options.limit.getD 50).min 200
  let skip := arithmetic.mul (arithmetic.pred page) limit
  let tenantId ← scopedQb name ctx
  .lift (Typeorm.checkNumbers skip limit)
  let tenant ← uuidParameter tenantId
  let actorId ← columnParameter (Js.truthy filter.actorId)
  let _ ← written filter.parameters
  let (data, total) ← getManyAndCount arithmetic (fun w => w.auditEvents.rows) ties
    AuditEventOrmEntity.occurredAt
    (fun row => row.tenantId = tenant && filter.matches actorId row) skip limit
  return { data := data.map toDomain, «meta» := buildPaginationMeta arithmetic page limit total }

/-- `query`, of numbers that need no rounding. -/
def query (ctx : Option String) (ties : Typeorm.Arrangement AuditEventOrmEntity)
    (filter : AuditEventFilter) (options : PaginationOptions) :
    App (PaginatedResult AuditEventEntity) :=
  queryWith .exact ctx ties filter options

/-! ## What they write -/

/-- The statement inserts what the columns make of the instances, or is
refused. -/
theorem insertOrms_run (inet : String → Option String) (orms : List AuditEventOrmEntity)
    (w : World) :
    (insertOrms inet orms).run w =
      match (orms.mapM (AuditEventOrmEntity.stored inet)).bind w.auditEvents.insertAll? with
      | some table => (.ok (), { w with auditEvents := table })
      | none => (.error .database, w) := by
  have hstored := written_run (orms.mapM (AuditEventOrmEntity.stored inet)) w
  cases hrows : orms.mapM (AuditEventOrmEntity.stored inet) with
  | none =>
      rw [hrows] at hstored
      rw [insertOrms, hrows, Program.bind_run_error hstored, Option.bind_none]
  | some rows =>
      rw [hrows] at hstored
      rw [insertOrms, hrows, Program.bind_run_ok hstored, Option.bind_some,
        write_run (fun w => w.auditEvents.insertAll? rows) _ w]
      cases w.auditEvents.insertAll? rows with
      | some table => rfl
      | none => rfl

/-- Nothing is inserted, or what the columns make of the instances. -/
theorem insertOrms_cases (inet : String → Option String) (orms : List AuditEventOrmEntity)
    (w : World) :
    (∃ e, (insertOrms inet orms).run w = (.error e, w)) ∨
    ∃ rows table, (insertOrms inet orms).run w = (.ok (), { w with auditEvents := table }) ∧
      orms.mapM (AuditEventOrmEntity.stored inet) = some rows ∧
      w.auditEvents.insertAll? rows = some table := by
  have hrun := insertOrms_run inet orms w
  cases htable : (orms.mapM (AuditEventOrmEntity.stored inet)).bind w.auditEvents.insertAll? with
  | none =>
      rw [htable] at hrun
      exact .inl ⟨_, hrun⟩
  | some table =>
      rw [htable] at hrun
      obtain ⟨rows, hrows, hinsert⟩ := Option.bind_eq_some_iff.mp htable
      exact .inr ⟨rows, table, hrun, hrows, hinsert⟩

/-- Nothing is inserted, or one row: under a new key, and of the active tenant. -/
theorem append_cases (inet : String → Option String) (ctx : Option String)
    (event : AuditEventEntity) (w : World) :
    (∃ e, (append inet ctx event).run w = (.error e, w.noting ctx)) ∨
    ∃ row table, (append inet ctx event).run w =
        (.ok event, { w.noting ctx with auditEvents := table }) ∧
      w.auditEvents.insertAll? [row] = some table ∧ Js.truthy ctx = some event.tenantId ∧
      Pg.uuid event.tenantId = some row.tenantId ∧ (toOrm event).stored inet = some row := by
  rcases guardTenant_cases name ctx event.tenantId _
    (insertOrms inet [toOrm event] >>= fun _ => pure event) w with hrejected | ⟨hctx, hrun⟩
  · exact .inl hrejected
  · rcases insertOrms_cases inet [toOrm event] (w.noting ctx) with
      ⟨e, hinsert⟩ | ⟨rows, table, hinsert, hstored, htable⟩
    · exact .inl ⟨e, hrun.trans (Program.bind_run_error hinsert)⟩
    · obtain ⟨row, hrow, hrows⟩ := Option.bind_eq_some_iff.mp hstored
      obtain rfl := Option.some.inj hrows
      have htenant : Pg.uuid event.tenantId = some row.tenantId :=
        (AuditEventOrmEntity.storedAs hrow).2
      exact .inr ⟨row, table, hrun.trans (Program.bind_run_ok hinsert), htable, hctx, htenant, hrow⟩

/-- The events are of the tenant, or the first that is not is reported. -/
theorem checkTenants_cases (tenantId : String) (events : List AuditEventEntity) (w : World) :
    (∃ e, (checkTenants tenantId events).run w = (.error e, w)) ∨
    ((checkTenants tenantId events).run w = (.ok (), w) ∧
      ∀ event ∈ events, event.tenantId = tenantId) := by
  induction events with
  | nil => exact .inr ⟨rfl, by simp⟩
  | cons event events ih =>
      by_cases htenant : event.tenantId = tenantId
      · have hrun : checkTenants tenantId (event :: events) = checkTenants tenantId events := by
          rw [checkTenants, if_neg (not_not.mpr htenant)]
        rw [hrun]
        rcases ih with herror | ⟨hok, hall⟩
        · exact .inl herror
        · exact .inr ⟨hok, List.forall_mem_cons.mpr ⟨htenant, hall⟩⟩
      · rw [checkTenants, if_pos htenant]
        exact .inl ⟨_, rfl⟩

/-- The batch is refused, is empty, or all its rows are inserted. -/
theorem appendBatch_run_cases (inet : String → Option String) (ctx : Option String)
    (events : List AuditEventEntity) (w : World) :
    (∃ e, (appendBatch inet ctx events).run w = (.error e, w.noting ctx)) ∨
    (events = [] ∧ (appendBatch inet ctx events).run w = (.ok (), w)) ∨
    ∃ rows table tenantId, (appendBatch inet ctx events).run w =
        (.ok (), { w.noting ctx with auditEvents := table }) ∧
      w.auditEvents.insertAll? rows = some table ∧ Js.truthy ctx = some tenantId ∧
      (∀ event ∈ events, event.tenantId = tenantId) ∧
      (events.map toOrm).mapM (AuditEventOrmEntity.stored inet) = some rows := by
  by_cases hevents : events = []
  · have hrun : (appendBatch inet ctx events).run w = (.ok (), w) := by
      rw [appendBatch, if_pos hevents]
      rfl
    exact .inr (.inl ⟨hevents, hrun⟩)
  · have happend : appendBatch inet ctx events = (do
        let tenantId ← requireTenantId name ctx
        checkTenants tenantId events
        insertOrms inet (events.map toOrm)) := by
      rw [appendBatch, if_neg hevents]
    rw [happend]
    cases hctx : Js.truthy ctx with
    | none =>
        obtain ⟨message, hrequire⟩ := requireTenantId_run_none name w hctx
        rw [Program.bind_run_error hrequire]
        exact .inl ⟨_, rfl⟩
    | some tenantId =>
        rw [Program.bind_run_ok (requireTenantId_run w hctx)]
        rcases checkTenants_cases tenantId events (w.noting ctx) with
          ⟨e, hcheck⟩ | ⟨hcheck, hall⟩
        · rw [Program.bind_run_error hcheck]
          exact .inl ⟨_, rfl⟩
        · rw [Program.bind_run_ok hcheck]
          rcases insertOrms_cases inet (events.map toOrm) (w.noting ctx) with
            ⟨e, hinsert⟩ | ⟨rows, table, hinsert, hstored, htable⟩
          · rw [hinsert]
            exact .inl ⟨_, rfl⟩
          · rw [hinsert]
            exact .inr (.inr ⟨rows, table, tenantId, rfl, htable, rfl, hall, hstored⟩)

/-- The rows of events of a tenant are the tenant's. -/
theorem tenant_of_stored {inet : String → Option String} {tenantId : String}
    {events : List AuditEventEntity} {rows : List AuditEventOrmEntity}
    (hall : ∀ event ∈ events, event.tenantId = tenantId)
    (hstored : (events.map toOrm).mapM (AuditEventOrmEntity.stored inet) = some rows) :
    ∀ row ∈ rows, Pg.uuid tenantId = some row.tenantId := by
  intro row hrow
  obtain ⟨orm, horm, hrowStored⟩ := Pg.mem_of_mapM hstored hrow
  obtain ⟨event, hevent, rfl⟩ := List.mem_map.mp horm
  obtain ⟨-, htenant⟩ := AuditEventOrmEntity.storedAs hrowStored
  rw [← hall event hevent]
  exact htenant

/-- No row is inserted, or rows of the active tenant. -/
theorem appendBatch_cases (inet : String → Option String) (ctx : Option String)
    (events : List AuditEventEntity) (w : World) :
    (∃ w', ((appendBatch inet ctx events).run w).2 = w' ∧ (w' = w ∨ w' = w.noting ctx)) ∨
    ∃ rows table, ((appendBatch inet ctx events).run w).2 =
        { w.noting ctx with auditEvents := table } ∧
      w.auditEvents.insertAll? rows = some table ∧
      ∃ tenantId, Js.truthy ctx = some tenantId ∧
        ∀ row ∈ rows, Pg.uuid tenantId = some row.tenantId := by
  rcases appendBatch_run_cases inet ctx events w with
    ⟨e, hrun⟩ | ⟨-, hrun⟩ | ⟨rows, table, tenantId, hrun, htable, hctx, hall, hstored⟩
  · rw [hrun]
    exact .inl ⟨_, rfl, .inr rfl⟩
  · rw [hrun]
    exact .inl ⟨_, rfl, .inl rfl⟩
  · rw [hrun]
    exact .inr ⟨rows, table, rfl, htable, tenantId, hctx, tenant_of_stored hall hstored⟩

/-! ## What they leave alone -/

section Leaves

variable {τ : Type} {f : World → τ} (hf : ∀ w tenant, f (World.noting w tenant) = f w)

include hf

theorem leaves_findById (ctx : Option String) (id : String) : Program.Leaves f (findById ctx id) :=
  .bind (leaves_scopedWhere hf _ _ _) fun _ => .bind (leaves_findOne _ _ _ _) fun _ => .pure _

theorem leaves_query (ctx : Option String) (ties : Typeorm.Arrangement AuditEventOrmEntity)
    (filter : AuditEventFilter) (options : PaginationOptions) :
    Program.Leaves f (query ctx ties filter options) :=
  .bind (leaves_requireTenantId hf _ _) fun _ => .bind (.lift _) fun _ =>
    .bind (leaves_uuidParameter _) fun _ => .bind (leaves_columnParameter _) fun _ =>
      .bind (leaves_written _) fun _ => .bind (leaves_getManyAndCount _ _ _ _ _ _ _) fun _ => .pure _

end Leaves

end AuditEventRepository

end Atlas
