import Atlas.TenantAware

/-!
# Atlas.Workflow.Repository

`WorkflowDefinitionRepository` and `WorkflowExecutionRepository`.  Reads filter
by the tenant; `save` compares the tenant the entity claims.
-/

namespace Atlas

open StoreKit TenantAwareRepository

/-! ## Definitions -/

namespace WorkflowDefinitionRepository

/-- The name in the messages. -/
def name : String := "WorkflowDefinitionRepository"

/-- An entity is built from a row, which may lack the dates the database sets. -/
def toDomain (loadedAt : Js.Date) (orm : WorkflowDefinitionOrmEntity) :
    WorkflowDefinitionEntity where
  definitionId := orm.id
  tenantId := orm.tenantId
  name := orm.name
  description := orm.description
  trigger := orm.trigger
  steps := orm.steps
  version := orm.version
  status := orm.status
  createdBy := orm.createdBy
  createdAt := orm.createdAt.getD loadedAt
  updatedAt := orm.updatedAt.getD loadedAt

def toOrm (entity : WorkflowDefinitionEntity) : WorkflowDefinitionOrmEntity where
  id := entity.definitionId
  tenantId := entity.tenantId
  name := entity.name
  description := entity.description
  trigger := entity.trigger
  steps := entity.steps
  version := entity.version
  status := entity.status
  createdBy := entity.createdBy
  createdAt := none
  updatedAt := none

/-- On an update, a column without a value keeps the one it has. -/
def merge (old row : WorkflowDefinitionOrmEntity) : WorkflowDefinitionOrmEntity :=
  { row with
    description := row.description.or old.description
    createdAt := old.createdAt }

/-- The table of the repository. -/
def table : DatedTable WorkflowDefinitionOrmEntity where
  id := WorkflowDefinitionOrmEntity.id
  uuids := [WorkflowDefinitionOrmEntity.id, WorkflowDefinitionOrmEntity.tenantId]
  dated createdAt updatedAt orm := { orm with createdAt, updatedAt }
  stored := WorkflowDefinitionOrmEntity.stored
  merge := merge
  allowed := fun _ _ => true
  table w := w.workflowDefinitions
  setTable w table := { w with workflowDefinitions := table }
  uuids_dated := by simp
  uuids_stored := by
    intro column hcolumn row row' h
    obtain ⟨hid, htenant⟩ := WorkflowDefinitionOrmEntity.storedAs h
    simp only [List.mem_cons, List.not_mem_nil, or_false] at hcolumn
    rcases hcolumn with rfl | rfl
    · exact hid
    · exact htenant
  uuids_merge := by simp [merge]

/-- `repo.save(orm)`. -/
def saveOrm (savedAt : Js.Date) (orm : WorkflowDefinitionOrmEntity) : App WorkflowDefinitionOrmEntity :=
  table.saveOrm savedAt orm

def findById (ctx : Option String) (loadedAt : Js.Date) (id : String) :
    App (Option WorkflowDefinitionEntity) := do
  let options ← scopedWhere name ctx { tenantId := none, id := some id }
  let orm ← findOne (fun w => w.workflowDefinitions.rows) WorkflowDefinitionOrmEntity.tenantId
    WorkflowDefinitionOrmEntity.id options
  return orm.map (toDomain loadedAt)

def save (ctx : Option String) (rt : Runtime) (definition : WorkflowDefinitionEntity) :
    App WorkflowDefinitionEntity := do
  guardTenantOwnership name ctx definition.tenantId
  let orm := toOrm definition
  let saved ← saveOrm rt.savedAt orm
  return toDomain rt.loadedAt saved

/-- Nothing is written, or one row: under the key of the entity, and of the
active tenant. -/
theorem save_cases (ctx : Option String) (rt : Runtime) (entity : WorkflowDefinitionEntity) (w : World) :
    (∃ e, (save ctx rt entity).run w = (.error e, w.noting ctx)) ∨
    ∃ createdAt row, (save ctx rt entity).run w =
        (.ok (toDomain rt.loadedAt (table.dated createdAt (some rt.savedAt) (toOrm entity))),
          { w.noting ctx with workflowDefinitions := w.workflowDefinitions.put row }) ∧
      Js.truthy ctx = some entity.tenantId ∧ Pg.uuid entity.definitionId = some row.id ∧
      Pg.uuid entity.tenantId = some row.tenantId ∧
      table.Writes rt.savedAt (toOrm entity) (w.noting ctx) row := by
  rcases guardedSave_cases table name ctx entity.tenantId rt.savedAt (toOrm entity)
    (toDomain rt.loadedAt) w with hrejected | ⟨createdAt, row, hrun, hctx, hwrites⟩
  · exact .inl hrejected
  · exact .inr ⟨createdAt, row, hrun, hctx,
      hwrites.uuids WorkflowDefinitionOrmEntity.id (by simp [table]),
      hwrites.uuids WorkflowDefinitionOrmEntity.tenantId (by simp [table]), hwrites⟩

/-- A definition that is found is a row of the active tenant. -/
theorem findById_cases (ctx : Option String) (loadedAt : Js.Date) (id : String) (w : World) :
    (∃ e, (findById ctx loadedAt id).run w = (.error e, w.noting ctx)) ∨
    ∃ tenant t k, Js.truthy ctx = some tenant ∧ Pg.uuid tenant = some t ∧ Pg.uuid id = some k ∧
      (findById ctx loadedAt id).run w = (.ok ((w.workflowDefinitions.rows.find? fun row =>
        row.tenantId = t && row.id = k).map (toDomain loadedAt)), w.noting ctx) :=
  scopedFindOne_cases name ctx id (fun w => w.workflowDefinitions.rows)
    WorkflowDefinitionOrmEntity.tenantId WorkflowDefinitionOrmEntity.id
    (fun orm => pure (orm.map (toDomain loadedAt))) w rfl

end WorkflowDefinitionRepository

/-! ## Executions -/

namespace WorkflowExecutionRepository

/-- The name in the messages. -/
def name : String := "WorkflowExecutionRepository"

/-- An entity is built from a row, which may lack the dates the database sets. -/
def toDomain (loadedAt : Js.Date) (orm : WorkflowExecutionOrmEntity) :
    WorkflowExecutionEntity where
  executionId := orm.id
  definitionId := orm.definitionId
  tenantId := orm.tenantId
  correlationId := orm.correlationId
  triggeredBy := orm.triggeredBy
  triggerType := orm.triggerType
  input := orm.input
  status := orm.status
  stepResults := orm.stepResults
  startedAt := orm.startedAt
  completedAt := orm.completedAt
  durationMs := orm.durationMs
  errorMessage := orm.errorMessage
  createdAt := orm.createdAt.getD loadedAt

def toOrm (entity : WorkflowExecutionEntity) : WorkflowExecutionOrmEntity where
  id := entity.executionId
  definitionId := entity.definitionId
  tenantId := entity.tenantId
  correlationId := entity.correlationId
  triggeredBy := entity.triggeredBy
  triggerType := entity.triggerType
  input := entity.input
  status := entity.status
  stepResults := entity.stepResults
  startedAt := entity.startedAt
  completedAt := entity.completedAt
  durationMs := entity.durationMs
  errorMessage := entity.errorMessage
  createdAt := none
  updatedAt := none

/-- On an update, a column without a value keeps the one it has. -/
def merge (old row : WorkflowExecutionOrmEntity) : WorkflowExecutionOrmEntity :=
  { row with
    startedAt := row.startedAt.or old.startedAt
    completedAt := row.completedAt.or old.completedAt
    durationMs := row.durationMs.or old.durationMs
    errorMessage := row.errorMessage.or old.errorMessage
    createdAt := old.createdAt }

/-- `definition_id` refers to a definition, of whichever tenant. -/
def allowed (w : World) (row : WorkflowExecutionOrmEntity) : Bool :=
  w.workflowDefinitions.rows.any fun r => r.id = row.definitionId

/-- The table of the repository. -/
def table : DatedTable WorkflowExecutionOrmEntity where
  id := WorkflowExecutionOrmEntity.id
  uuids := [WorkflowExecutionOrmEntity.id, WorkflowExecutionOrmEntity.tenantId]
  dated createdAt updatedAt orm := { orm with createdAt, updatedAt }
  stored := WorkflowExecutionOrmEntity.stored
  merge := merge
  allowed := allowed
  table w := w.workflowExecutions
  setTable w table := { w with workflowExecutions := table }
  uuids_dated := by simp
  uuids_stored := by
    intro column hcolumn row row' h
    have hcolumns := WorkflowExecutionOrmEntity.storedAs h
    simp only [List.mem_cons, List.not_mem_nil, or_false] at hcolumn
    rcases hcolumn with rfl | rfl
    · exact hcolumns.id
    · exact hcolumns.tenantId
  uuids_merge := by simp [merge]

/-- `repo.save(orm)`. -/
def saveOrm (savedAt : Js.Date) (orm : WorkflowExecutionOrmEntity) : App WorkflowExecutionOrmEntity :=
  table.saveOrm savedAt orm

def findById (ctx : Option String) (loadedAt : Js.Date) (id : String) :
    App (Option WorkflowExecutionEntity) := do
  let options ← scopedWhere name ctx { tenantId := none, id := some id }
  let orm ← findOne (fun w => w.workflowExecutions.rows) WorkflowExecutionOrmEntity.tenantId
    WorkflowExecutionOrmEntity.id options
  return orm.map (toDomain loadedAt)

/-- `findMany`, of numbers that need no rounding. -/
def findMany (ctx : Option String) (ties : Typeorm.Arrangement WorkflowExecutionOrmEntity)
    (loadedAt : Js.Date) (status : Option WorkflowExecutionStatus) (options : PaginationOptions) :
    App (PaginatedResult WorkflowExecutionEntity) := do
  let page := options.page.getD 1
  let limit := (options.limit.getD 20).min 100
  let skip := page.pred.mul limit
  let tenantId ← scopedQb name ctx
  .lift (Typeorm.checkNumbers skip limit)
  let tenant ← uuidParameter tenantId
  let (orms, total) ← getManyAndCount .exact (fun w => w.workflowExecutions.rows) ties
    (fun row => row.createdAt.getD 0)
    (fun row => row.tenantId = tenant && status.all (row.status = ·)) skip limit
  return { data := orms.map (toDomain loadedAt)
           «meta» := buildPaginationMeta .exact page limit total }

def save (ctx : Option String) (rt : Runtime) (execution : WorkflowExecutionEntity) :
    App WorkflowExecutionEntity := do
  guardTenantOwnership name ctx execution.tenantId
  let orm := toOrm execution
  let saved ← saveOrm rt.savedAt orm
  return toDomain rt.loadedAt saved

/-- Nothing is written, or one row: under the key of the entity, and of the
active tenant. -/
theorem save_cases (ctx : Option String) (rt : Runtime) (entity : WorkflowExecutionEntity) (w : World) :
    (∃ e, (save ctx rt entity).run w = (.error e, w.noting ctx)) ∨
    ∃ createdAt row, (save ctx rt entity).run w =
        (.ok (toDomain rt.loadedAt (table.dated createdAt (some rt.savedAt) (toOrm entity))),
          { w.noting ctx with workflowExecutions := w.workflowExecutions.put row }) ∧
      Js.truthy ctx = some entity.tenantId ∧ Pg.uuid entity.executionId = some row.id ∧
      Pg.uuid entity.tenantId = some row.tenantId ∧
      table.Writes rt.savedAt (toOrm entity) (w.noting ctx) row := by
  rcases guardedSave_cases table name ctx entity.tenantId rt.savedAt (toOrm entity)
    (toDomain rt.loadedAt) w with hrejected | ⟨createdAt, row, hrun, hctx, hwrites⟩
  · exact .inl hrejected
  · exact .inr ⟨createdAt, row, hrun, hctx,
      hwrites.uuids WorkflowExecutionOrmEntity.id (by simp [table]),
      hwrites.uuids WorkflowExecutionOrmEntity.tenantId (by simp [table]), hwrites⟩

/-- An execution that is found is a row of the active tenant. -/
theorem findById_cases (ctx : Option String) (loadedAt : Js.Date) (id : String) (w : World) :
    (∃ e, (findById ctx loadedAt id).run w = (.error e, w.noting ctx)) ∨
    ∃ tenant t k, Js.truthy ctx = some tenant ∧ Pg.uuid tenant = some t ∧ Pg.uuid id = some k ∧
      (findById ctx loadedAt id).run w = (.ok ((w.workflowExecutions.rows.find? fun row =>
        row.tenantId = t && row.id = k).map (toDomain loadedAt)), w.noting ctx) :=
  scopedFindOne_cases name ctx id (fun w => w.workflowExecutions.rows)
    WorkflowExecutionOrmEntity.tenantId WorkflowExecutionOrmEntity.id
    (fun orm => pure (orm.map (toDomain loadedAt))) w rfl

/-- A row of the active tenant is found under any spelling of its id. -/
theorem findById_run {ctx : Option String} {id tenant : String} {w : World}
    {row : WorkflowExecutionOrmEntity} (loadedAt : Js.Date)
    (hrow : row ∈ w.workflowExecutions.rows) (hctx : Js.truthy ctx = some tenant)
    (ht : Pg.uuid tenant = some row.tenantId) (hk : Pg.uuid id = some row.id) :
    (findById ctx loadedAt id).run w = (.ok (some (toDomain loadedAt row)), w.noting ctx) := by
  have hfound : (w.workflowExecutions.rows.find? fun r =>
      r.tenantId = row.tenantId && r.id = row.id) = some row :=
    w.workflowExecutions.find?_selected hrow (by simp) fun r hr => by
      simp only [Bool.and_eq_true, decide_eq_true_eq] at hr
      exact hr.2
  refine (scopedFindOne_run name (fun w => w.workflowExecutions.rows)
    WorkflowExecutionOrmEntity.tenantId WorkflowExecutionOrmEntity.id
    (fun orm => pure (orm.map (toDomain loadedAt))) rfl hctx ht hk).trans ?_
  rw [hfound]
  rfl

end WorkflowExecutionRepository

end Atlas
