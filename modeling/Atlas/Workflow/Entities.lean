import Atlas.Kernel
import Atlas.Pg

/-!
# Atlas.Workflow.Entities

Workflow definitions and executions: the entities, their rows and the mapping
between the two.

`toOrm` leaves `createdAt` and `updatedAt` unset, so an instance of a row class
has them as options; a row of a table has both.
-/

namespace Atlas

open StoreKit

/-- An optional string property of a JSON object: left out when absent. -/
def optionalMember (key : String) : Option String → JsonObject
  | some v => [(key, .str v)]
  | none => []

/-! ## Definitions -/

inductive WorkflowTriggerType where
  | manual
  | event
  | schedule
  | webhook
deriving DecidableEq

def WorkflowTriggerType.text : WorkflowTriggerType → String
  | .manual => "manual"
  | .event => "event"
  | .schedule => "schedule"
  | .webhook => "webhook"

inductive WorkflowDefinitionStatus where
  | draft
  | active
  | archived
deriving DecidableEq

def WorkflowDefinitionStatus.text : WorkflowDefinitionStatus → String
  | .draft => "draft"
  | .active => "active"
  | .archived => "archived"

structure WorkflowStep where
  stepId : String
  name : String
  type : String
  config : JsonObject
  onSuccess : Option String
  onFailure : Option String
deriving DecidableEq

def WorkflowStep.toJson (step : WorkflowStep) : Json :=
  .obj ([("stepId", .str step.stepId), ("name", .str step.name), ("type", .str step.type),
    ("config", .obj step.config)] ++ optionalMember "onSuccess" step.onSuccess ++
    optionalMember "onFailure" step.onFailure)

/-- The column `steps`: the configurations come back with their members in the
order of `jsonb`. -/
def WorkflowStep.column (steps : List WorkflowStep) : Option (List WorkflowStep) :=
  (Pg.jsonb (.arr (steps.map WorkflowStep.toJson))).map fun _ =>
    steps.map fun step => { step with config := Json.orderedMembers Pg.rank step.config }

structure WorkflowTrigger where
  type : WorkflowTriggerType
  eventType : Option String
  schedule : Option String
  webhookPath : Option String
deriving DecidableEq

def WorkflowTrigger.toJson (trigger : WorkflowTrigger) : Json :=
  .obj (("type", .str trigger.type.text) :: (optionalMember "eventType" trigger.eventType ++
    optionalMember "schedule" trigger.schedule ++
    optionalMember "webhookPath" trigger.webhookPath))

structure WorkflowDefinitionEntity where
  definitionId : String
  tenantId : String
  name : String
  description : Option String
  trigger : WorkflowTrigger
  steps : List WorkflowStep
  version : Js.Double
  status : WorkflowDefinitionStatus
  createdBy : String
  createdAt : Js.Date
  updatedAt : Js.Date
deriving DecidableEq

def WorkflowDefinitionEntity.isActive (definition : WorkflowDefinitionEntity) : Bool :=
  definition.status = .active

/-- A row of `workflow_definitions`. -/
structure WorkflowDefinitionOrmEntity where
  id : String
  tenantId : String
  name : String
  description : Option String
  trigger : WorkflowTrigger
  steps : List WorkflowStep
  version : Js.Double
  status : WorkflowDefinitionStatus
  createdBy : String
  createdAt : Option Js.Date
  updatedAt : Option Js.Date
deriving DecidableEq

/-- What the columns make of a row, or `none` if one of them refuses its value. -/
def WorkflowDefinitionOrmEntity.stored (row : WorkflowDefinitionOrmEntity) :
    Option WorkflowDefinitionOrmEntity := do
  let id ← Pg.uuid row.id
  let tenantId ← Pg.uuid row.tenantId
  let name ← Pg.varchar 100 row.name
  let description ← Pg.nullable Pg.text row.description
  let _ ← Pg.jsonb row.trigger.toJson
  let steps ← WorkflowStep.column row.steps
  let version ← Pg.int4OfNumber row.version
  let createdBy ← Pg.uuid row.createdBy
  some { row with id, tenantId, name, description, steps, version, createdBy }

/-- The keys are stored in their normal form. -/
theorem WorkflowDefinitionOrmEntity.storedAs {row row' : WorkflowDefinitionOrmEntity}
    (h : row.stored = some row') :
    Pg.uuid row.id = some row'.id ∧ Pg.uuid row.tenantId = some row'.tenantId := by
  obtain ⟨id, hid, h⟩ := Option.bind_eq_some_iff.mp h
  obtain ⟨tenantId, htenant, h⟩ := Option.bind_eq_some_iff.mp h
  obtain ⟨_, -, h⟩ := Option.bind_eq_some_iff.mp h
  obtain ⟨_, -, h⟩ := Option.bind_eq_some_iff.mp h
  obtain ⟨_, -, h⟩ := Option.bind_eq_some_iff.mp h
  obtain ⟨_, -, h⟩ := Option.bind_eq_some_iff.mp h
  obtain ⟨_, -, h⟩ := Option.bind_eq_some_iff.mp h
  obtain ⟨_, -, h⟩ := Option.bind_eq_some_iff.mp h
  obtain rfl := Option.some.inj h
  exact ⟨hid, htenant⟩

/-! ## Executions -/

inductive WorkflowExecutionStatus where
  | pending
  | running
  | completed
  | failed
  | cancelled
deriving DecidableEq

def WorkflowExecutionStatus.text : WorkflowExecutionStatus → String
  | .pending => "pending"
  | .running => "running"
  | .completed => "completed"
  | .failed => "failed"
  | .cancelled => "cancelled"

/-- How an execution is triggered. -/
inductive TriggerType where
  | manual
  | event
  | schedule
deriving DecidableEq

def TriggerType.text : TriggerType → String
  | .manual => "manual"
  | .event => "event"
  | .schedule => "schedule"

inductive WorkflowStepStatus where
  | pending
  | running
  | completed
  | failed
  | skipped
deriving DecidableEq

def WorkflowStepStatus.text : WorkflowStepStatus → String
  | .pending => "pending"
  | .running => "running"
  | .completed => "completed"
  | .failed => "failed"
  | .skipped => "skipped"

structure WorkflowStepResult where
  stepId : String
  stepName : String
  status : WorkflowStepStatus
  startedAt : Option String
  completedAt : Option String
  output : Option JsonObject
  errorMessage : Option String
deriving DecidableEq

def WorkflowStepResult.toJson (result : WorkflowStepResult) : Json :=
  let output : JsonObject := match result.output with
    | some o => [("output", .obj o)]
    | none => []
  .obj ([("stepId", .str result.stepId), ("stepName", .str result.stepName),
    ("status", .str result.status.text)] ++ optionalMember "startedAt" result.startedAt ++
    optionalMember "completedAt" result.completedAt ++ output ++
    optionalMember "errorMessage" result.errorMessage)

/-- A result with the members of its output in the order of `jsonb`. -/
def WorkflowStepResult.ordered (result : WorkflowStepResult) : WorkflowStepResult :=
  { result with output := result.output.map (Json.orderedMembers Pg.rank) }

/-- The column `step_results`. -/
def WorkflowStepResult.column (results : List WorkflowStepResult) :
    Option (List WorkflowStepResult) :=
  (Pg.jsonb (.arr (results.map WorkflowStepResult.toJson))).map fun _ =>
    results.map WorkflowStepResult.ordered

theorem WorkflowStepResult.ordered_ordered (result : WorkflowStepResult) :
    result.ordered.ordered = result.ordered := by
  obtain ⟨stepId, stepName, status, startedAt, completedAt, output, errorMessage⟩ := result
  cases output with
  | none => rfl
  | some members =>
      simp only [ordered, Option.map_some,
        Json.orderedMembers_orderedMembers Pg.rank_injective members]

/-- The strings of a result stay the same. -/
theorem WorkflowStepResult.all_ordered {p : String → Bool} {result : WorkflowStepResult}
    (h : result.toJson.all p = true) : result.ordered.toJson.all p = true := by
  obtain ⟨stepId, stepName, status, startedAt, completedAt, output, errorMessage⟩ := result
  cases output with
  | none => exact h
  | some members =>
      rw [toJson, Json.all, Json.allMembers_iff] at h ⊢
      intro m hm
      have hmember : m = ("output", .obj (Json.orderedMembers Pg.rank members)) ∨
          m ∈ [("stepId", .str stepId), ("stepName", .str stepName), ("status", .str status.text)] ++
            optionalMember "startedAt" startedAt ++ optionalMember "completedAt" completedAt ++
            [("output", .obj members)] ++ optionalMember "errorMessage" errorMessage := by
        simp only [ordered, Option.map_some, List.mem_append, List.mem_singleton] at hm ⊢
        tauto
      rcases hmember with rfl | hm
      · obtain ⟨hkey, hvalue⟩ := h ("output", .obj members) (by simp)
        exact ⟨hkey, Json.all_ordered p (.obj members) hvalue⟩
      · exact h m hm

/-- What the column gives back, it stores as it is. -/
theorem WorkflowStepResult.column_column {results results' : List WorkflowStepResult}
    (h : column results = some results') : column results' = some results' := by
  obtain ⟨_, hjson, rfl⟩ := Option.map_eq_some_iff.mp h
  have hstrings := Pg.jsonb_isSome (.arr (results.map WorkflowStepResult.toJson))
  rw [hjson, Option.isSome_some, Json.all, eq_comm, Json.allElems_iff] at hstrings
  have hordered : (Pg.jsonb (.arr ((results.map ordered).map toJson))).isSome = true := by
    rw [Pg.jsonb_isSome, Json.all, Json.allElems_iff]
    intro v hv
    obtain ⟨_, hmem, rfl⟩ := List.mem_map.mp hv
    obtain ⟨result, hresult, rfl⟩ := List.mem_map.mp hmem
    exact all_ordered (hstrings _ (List.mem_map_of_mem hresult))
  obtain ⟨v, hv⟩ := Option.isSome_iff_exists.mp hordered
  rw [column, hv, Option.map_some, List.map_map]
  exact congrArg some (List.map_congr_left fun result _ => result.ordered_ordered)

/-- An execution, without the `updatedAt` it inherits: nothing reads it. -/
structure WorkflowExecutionEntity where
  executionId : String
  definitionId : String
  tenantId : String
  correlationId : String
  triggeredBy : String
  triggerType : TriggerType
  input : JsonObject
  status : WorkflowExecutionStatus
  stepResults : List WorkflowStepResult
  startedAt : Option Js.Date
  completedAt : Option Js.Date
  durationMs : Option Int
  errorMessage : Option String
  createdAt : Js.Date
deriving DecidableEq

namespace WorkflowExecutionEntity

/-- A new execution, with the id and the instant the runtime hands out. -/
def create (generateId : String) (now : Js.Date)
    (definitionId tenantId correlationId triggeredBy : String) (triggerType : TriggerType)
    (input : JsonObject) : WorkflowExecutionEntity where
  executionId := generateId
  definitionId := definitionId
  tenantId := tenantId
  correlationId := correlationId
  triggeredBy := triggeredBy
  triggerType := triggerType
  input := input
  status := .pending
  stepResults := []
  startedAt := none
  completedAt := none
  durationMs := none
  errorMessage := none
  createdAt := now

/-- The three states `cancel` refuses. -/
def isTerminal (status : WorkflowExecutionStatus) : Bool :=
  status = .completed || status = .failed || status = .cancelled

def cancel (execution : WorkflowExecutionEntity) (now : Js.Date) (reason : Option String) :
    Except Exception WorkflowExecutionEntity :=
  if isTerminal execution.status then
    .error (.conflict
      s!"Cannot cancel execution in terminal status: {execution.status.text}")
  else
    .ok { execution with
      status := .cancelled
      completedAt := some now
      durationMs := match execution.startedAt with
        | some startedAt => some (now - startedAt)
        | none => execution.durationMs
      errorMessage := (Js.truthy reason).or execution.errorMessage }

/-- Only an execution that is not over is cancelled. -/
theorem cancel_cases {execution cancelled : WorkflowExecutionEntity} {now : Js.Date}
    {reason : Option String} (h : execution.cancel now reason = .ok cancelled) :
    isTerminal execution.status = false ∧ cancelled.executionId = execution.executionId ∧
      cancelled.status = .cancelled := by
  unfold cancel at h
  split at h
  · cases h
  · next hstatus =>
      obtain rfl := Except.ok.inj h
      exact ⟨Bool.eq_false_iff.mpr hstatus, rfl, rfl⟩

end WorkflowExecutionEntity

/-- A row of `workflow_executions`. -/
structure WorkflowExecutionOrmEntity where
  id : String
  definitionId : String
  tenantId : String
  correlationId : String
  triggeredBy : String
  triggerType : TriggerType
  input : JsonObject
  status : WorkflowExecutionStatus
  stepResults : List WorkflowStepResult
  startedAt : Option Js.Date
  completedAt : Option Js.Date
  durationMs : Option Int
  errorMessage : Option String
  createdAt : Option Js.Date
  updatedAt : Option Js.Date
deriving DecidableEq

/-- What the columns make of a row, or `none` if one of them refuses its value. -/
def WorkflowExecutionOrmEntity.stored (row : WorkflowExecutionOrmEntity) :
    Option WorkflowExecutionOrmEntity := do
  let id ← Pg.uuid row.id
  let definitionId ← Pg.uuid row.definitionId
  let tenantId ← Pg.uuid row.tenantId
  let correlationId ← Pg.uuid row.correlationId
  let triggeredBy ← Pg.varchar 255 row.triggeredBy
  let input ← Pg.jsonObject row.input
  let stepResults ← WorkflowStepResult.column row.stepResults
  let startedAt ← Pg.nullable Pg.timestamptz row.startedAt
  let completedAt ← Pg.nullable Pg.timestamptz row.completedAt
  let _ ← Pg.nullable Pg.int4 row.durationMs
  let errorMessage ← Pg.nullable Pg.text row.errorMessage
  some { row with id, definitionId, tenantId, correlationId, triggeredBy, input, stepResults,
                  startedAt, completedAt, errorMessage }

/-- What is stored of a row: what the columns make of its values, and the rest as it
is. -/
structure WorkflowExecutionOrmEntity.StoredAs (row row' : WorkflowExecutionOrmEntity) : Prop where
  id : Pg.uuid row.id = some row'.id
  definitionId : Pg.uuid row.definitionId = some row'.definitionId
  tenantId : Pg.uuid row.tenantId = some row'.tenantId
  correlationId : Pg.uuid row.correlationId = some row'.correlationId
  triggeredBy : Pg.varchar 255 row.triggeredBy = some row'.triggeredBy
  input : Pg.jsonObject row.input = some row'.input
  status : row'.status = row.status
  stepResults : WorkflowStepResult.column row.stepResults = some row'.stepResults
  startedAt : Pg.nullable Pg.timestamptz row.startedAt = some row'.startedAt
  completedAt : Pg.nullable Pg.timestamptz row.completedAt = some row'.completedAt
  durationMs : row'.durationMs = row.durationMs ∧
    ∃ v, Pg.nullable Pg.int4 row.durationMs = some v
  errorMessage : Pg.nullable Pg.text row.errorMessage = some row'.errorMessage

theorem WorkflowExecutionOrmEntity.storedAs {row row' : WorkflowExecutionOrmEntity}
    (h : row.stored = some row') : row.StoredAs row' := by
  obtain ⟨id, hid, h⟩ := Option.bind_eq_some_iff.mp h
  obtain ⟨definitionId, hdefinition, h⟩ := Option.bind_eq_some_iff.mp h
  obtain ⟨tenantId, htenant, h⟩ := Option.bind_eq_some_iff.mp h
  obtain ⟨correlationId, hcorrelation, h⟩ := Option.bind_eq_some_iff.mp h
  obtain ⟨triggeredBy, htriggered, h⟩ := Option.bind_eq_some_iff.mp h
  obtain ⟨input, hinput, h⟩ := Option.bind_eq_some_iff.mp h
  obtain ⟨stepResults, hresults, h⟩ := Option.bind_eq_some_iff.mp h
  obtain ⟨startedAt, hstarted, h⟩ := Option.bind_eq_some_iff.mp h
  obtain ⟨completedAt, hcompleted, h⟩ := Option.bind_eq_some_iff.mp h
  obtain ⟨duration, hduration, h⟩ := Option.bind_eq_some_iff.mp h
  obtain ⟨errorMessage, herror, h⟩ := Option.bind_eq_some_iff.mp h
  obtain rfl := Option.some.inj h
  exact ⟨hid, hdefinition, htenant, hcorrelation, htriggered, hinput, rfl, hresults, hstarted,
    hcompleted, ⟨rfl, duration, hduration⟩, herror⟩

/-! ## The DTO -/

structure WorkflowExecutionDto where
  executionId : String
  definitionId : String
  tenantId : String
  correlationId : String
  triggeredBy : String
  triggerType : TriggerType
  status : String
  input : JsonObject
  stepResults : List WorkflowStepResult
  startedAt : Option String
  completedAt : Option String
  durationMs : Option Int
  errorMessage : Option String
  createdAt : String
deriving DecidableEq

def WorkflowExecutionDto.fromEntity (execution : WorkflowExecutionEntity) :
    WorkflowExecutionDto where
  executionId := execution.executionId
  definitionId := execution.definitionId
  tenantId := execution.tenantId
  correlationId := execution.correlationId
  triggeredBy := execution.triggeredBy
  triggerType := execution.triggerType
  status := execution.status.text
  input := execution.input
  stepResults := execution.stepResults
  startedAt := execution.startedAt.map Js.toISOString
  completedAt := execution.completedAt.map Js.toISOString
  durationMs := execution.durationMs
  errorMessage := execution.errorMessage
  createdAt := Js.toISOString execution.createdAt

end Atlas
