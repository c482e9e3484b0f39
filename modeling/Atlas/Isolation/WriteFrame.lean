import Atlas.Audit.Repository
import Atlas.TenantCore.EventPublication
import Atlas.Workflow.Repository

/-!
# Atlas.Isolation.WriteFrame

What the writes of a tenant leave of the rows of the others.

`append`, `appendBatch` and `OrganizationRepository.save` leave all of them.
The two workflow repositories compare the tenant an entity claims with the
context and write under its primary key, so they leave all of them exactly when
the row under that key, if there is one, is the tenant's own.
-/

namespace Atlas

open StoreKit

/-! ## The rows of a tenant -/

/-- The tenant of a context, spelt as the columns have it. -/
def tenantOf (ctx : Option String) : Option String :=
  (Js.truthy ctx).map fun tenantId => (Pg.uuid tenantId).getD tenantId

/-- The tenant of a context is the owner that its uuid names. -/
theorem tenantOf_eq {ctx : Option String} {tenantId owner : String}
    (hctx : Js.truthy ctx = some tenantId) (howner : Pg.uuid tenantId = some owner) :
    tenantOf ctx = some owner := by
  rw [tenantOf, hctx, Option.map_some, howner, Option.getD_some]

/-- The rows whose owner a predicate selects, table by table. -/
structure Part where
  organizations : List OrganizationOrmEntity
  workflowDefinitions : List WorkflowDefinitionOrmEntity
  workflowExecutions : List WorkflowExecutionOrmEntity
  auditEvents : List AuditEventOrmEntity
deriving DecidableEq

def World.part (w : World) (selects : String → Bool) : Part where
  organizations := w.organizations.rows.filter fun row => selects row.id
  workflowDefinitions := w.workflowDefinitions.rows.filter fun row => selects row.tenantId
  workflowExecutions := w.workflowExecutions.rows.filter fun row => selects row.tenantId
  auditEvents := w.auditEvents.rows.filter fun row => selects row.tenantId

/-- The rows that are not the tenant's of the context. -/
def World.foreign (w : World) (ctx : Option String) : Part :=
  w.part fun owner => tenantOf ctx ≠ some owner

@[simp] theorem part_noting (w : World) (tenant : Option String) (selects : String → Bool) :
    (w.noting tenant).part selects = w.part selects := rfl

section Tables

variable {w : World} {selects : String → Bool}

/-- Rows that are not selected are added. -/
theorem part_insertAll {table : AuditEventTable} {rows : List AuditEventOrmEntity}
    (htable : w.auditEvents.insertAll? rows = some table)
    (hrows : ∀ row ∈ rows, selects row.tenantId = false) :
    { w with auditEvents := table }.part selects = w.part selects := by
  have hfilter : table.rows.filter (fun row => selects row.tenantId) =
      w.auditEvents.rows.filter fun row => selects row.tenantId := by
    rw [Table.rows_of_insertAll? htable, List.filter_append]
    have hnone : rows.filter (fun row => selects row.tenantId) = [] := by
      rw [List.filter_eq_nil_iff]
      intro row hrow
      simp [hrows row hrow]
    rw [hnone, List.append_nil]
  simp only [World.part, hfilter]

/-- A row that is not selected is written. -/
theorem part_putOrganization {row : OrganizationOrmEntity} (hrow : selects row.id = false) :
    { w with organizations := w.organizations.put row }.part selects = w.part selects := by
  have hfilter : (w.organizations.put row).rows.filter (fun r => selects r.id) =
      w.organizations.rows.filter fun r => selects r.id := by
    refine Table.filter_put_of_not hrow fun old _ hkey => ?_
    rw [hkey]
    exact hrow
  simp only [World.part, hfilter]

/-- A definition of somebody else is not in the part. -/
theorem part_putDefinition {row : WorkflowDefinitionOrmEntity}
    (hrow : selects row.tenantId = false) :
    { w with workflowDefinitions := w.workflowDefinitions.put row }.part selects =
        w.part selects ↔
      ∀ old, w.workflowDefinitions.find? row.id = some old → selects old.tenantId = false := by
  have hput := Table.filter_put_iff (t := w.workflowDefinitions) (p := fun r => selects r.tenantId) hrow
  refine Iff.trans ?_ hput
  simp only [World.part, Part.mk.injEq, true_and, and_true]

/-- An execution of somebody else is not in the part. -/
theorem part_putExecution {row : WorkflowExecutionOrmEntity}
    (hrow : selects row.tenantId = false) :
    { w with workflowExecutions := w.workflowExecutions.put row }.part selects =
        w.part selects ↔
      ∀ old, w.workflowExecutions.find? row.id = some old → selects old.tenantId = false := by
  have hput := Table.filter_put_iff (t := w.workflowExecutions) (p := fun r => selects r.tenantId) hrow
  refine Iff.trans ?_ hput
  simp only [World.part, Part.mk.injEq, true_and, and_true]

end Tables

/-! ## The five writes -/

section Writes

variable (ctx : Option String) (w : World)

/-- An audit event goes to the tenant of the context, or nowhere. -/
theorem append_frame (inet : String → Option String) (event : AuditEventEntity) :
    ((AuditEventRepository.append inet ctx event).run w).2.foreign ctx = w.foreign ctx := by
  rcases AuditEventRepository.append_cases inet ctx event w with
    ⟨e, hrun⟩ | ⟨row, table, hrun, htable, hctx, howner, -⟩
  · rw [hrun]
    exact part_noting w ctx _
  · rw [hrun]
    refine part_insertAll (w := w.noting ctx) htable fun row' hrow' => ?_
    obtain rfl := List.mem_singleton.mp hrow'
    simp [tenantOf_eq hctx howner]

/-- The events of a batch go to the tenant of the context, or nowhere. -/
theorem appendBatch_frame (inet : String → Option String) (events : List AuditEventEntity) :
    ((AuditEventRepository.appendBatch inet ctx events).run w).2.foreign ctx =
      w.foreign ctx := by
  rcases AuditEventRepository.appendBatch_cases inet ctx events w with
    ⟨w', hrun, rfl | rfl⟩ | ⟨rows, table, hrun, htable, tenantId, hctx, howner⟩
  · rw [hrun]
  · rw [hrun]
    exact part_noting w ctx _
  · rw [hrun]
    refine part_insertAll (w := w.noting ctx) htable fun row hrow => ?_
    simp [tenantOf_eq hctx (howner row hrow)]

/-- An organization is its own tenant, and is saved behind a guard. -/
theorem saveOrganization_frame (savedAt : Js.Date) (organization : OrganizationAggregate) :
    ((OrganizationRepository.save ctx savedAt organization).run w).2.foreign ctx =
      w.foreign ctx := by
  rcases OrganizationRepository.save_cases ctx savedAt organization w with
    ⟨e, hrun⟩ | ⟨saved, row, hrun, hctx, howner⟩
  · rw [hrun]
    exact part_noting w ctx _
  · rw [hrun]
    exact part_putOrganization (w := w.noting ctx) (by simp [tenantOf_eq hctx howner])

/-- The row under a key is the tenant's, if there is one. -/
def OwnDefinition (key : String) : Prop :=
  ∀ id old, Pg.uuid key = some id → w.workflowDefinitions.find? id = some old →
    tenantOf ctx = some old.tenantId

def OwnExecution (key : String) : Prop :=
  ∀ id old, Pg.uuid key = some id → w.workflowExecutions.find? id = some old →
    tenantOf ctx = some old.tenantId

/-- A save that is rejected, or puts one row under a key, leaves the rows of others
exactly when it replaces none of them. -/
theorem save_frame {α ρ : Type} {save : App α} {find : String → Option ρ} {tenantId : ρ → String}
    {key : String} (h : (∃ e, save.run w = (.error e, w.noting ctx)) ∨
      ∃ saved w' rowId, save.run w = (.ok saved, w') ∧ Pg.uuid key = some rowId ∧
        (w'.foreign ctx = w.foreign ctx ↔ ∀ old, find rowId = some old →
          decide (tenantOf ctx ≠ some (tenantId old)) = false)) :
    (save.run w).2.foreign ctx = w.foreign ctx ↔
      ((save.run w).1.isOk = true → ∀ id old, Pg.uuid key = some id → find id = some old →
        tenantOf ctx = some (tenantId old)) := by
  rcases h with ⟨e, hrun⟩ | ⟨saved, w', rowId, hrun, hid, hput⟩
  · rw [hrun]
    have hframe : (w.noting ctx).foreign ctx = w.foreign ctx := part_noting w ctx _
    simp [hframe, Except.isOk, Except.toBool]
  · rw [hrun]
    refine hput.trans ⟨fun hold _ id old hkey hfind => ?_, fun hown old hfind => ?_⟩
    · obtain rfl := Option.some.inj (hid.symm.trans hkey)
      simpa using hold old hfind
    · simpa using hown rfl rowId old hid hfind

/-- A definition is saved in place of what has its id: the frame holds unless that
is somebody else's. -/
theorem saveDefinition_frame (rt : Runtime) (definition : WorkflowDefinitionEntity) :
    ((WorkflowDefinitionRepository.save ctx rt definition).run w).2.foreign ctx =
        w.foreign ctx ↔
      (((WorkflowDefinitionRepository.save ctx rt definition).run w).1.isOk = true →
        OwnDefinition ctx w definition.definitionId) := by
  refine save_frame ctx w ?_
  rcases WorkflowDefinitionRepository.save_cases ctx rt definition w with
    hrejected | ⟨createdAt, row, hrun, hctx, hid, howner, -⟩
  · exact .inl hrejected
  · have htenant : tenantOf ctx = some row.tenantId := tenantOf_eq hctx howner
    have hput := @part_putDefinition (w.noting ctx) (fun owner => tenantOf ctx ≠ some owner) row
      (by simp [htenant])
    rw [part_noting] at hput
    exact .inr ⟨_, _, row.id, hrun, hid, hput⟩

/-- An execution is saved in place of what has its id: the frame holds unless that
is somebody else's. -/
theorem saveExecution_frame (rt : Runtime) (execution : WorkflowExecutionEntity) :
    ((WorkflowExecutionRepository.save ctx rt execution).run w).2.foreign ctx =
        w.foreign ctx ↔
      (((WorkflowExecutionRepository.save ctx rt execution).run w).1.isOk = true →
        OwnExecution ctx w execution.executionId) := by
  refine save_frame ctx w ?_
  rcases WorkflowExecutionRepository.save_cases ctx rt execution w with
    hrejected | ⟨createdAt, row, hrun, hctx, hid, howner, -⟩
  · exact .inl hrejected
  · have htenant : tenantOf ctx = some row.tenantId := tenantOf_eq hctx howner
    have hput := @part_putExecution (w.noting ctx) (fun owner => tenantOf ctx ≠ some owner) row
      (by simp [htenant])
    rw [part_noting] at hput
    exact .inr ⟨_, _, row.id, hrun, hid, hput⟩

end Writes

/-- **The writes of a tenant**: the audit log and the organizations of others
stay as they are; so do their workflow rows, unless a save goes through over a
row that is not the tenant's. -/
theorem writes_stay_within (inet : String → Option String) (ctx : Option String) (w : World) :
    (∀ event, ((AuditEventRepository.append inet ctx event).run w).2.foreign ctx =
      w.foreign ctx) ∧
    (∀ events, ((AuditEventRepository.appendBatch inet ctx events).run w).2.foreign ctx =
      w.foreign ctx) ∧
    (∀ savedAt organization,
      ((OrganizationRepository.save ctx savedAt organization).run w).2.foreign ctx =
        w.foreign ctx) ∧
    (∀ rt definition,
      ((WorkflowDefinitionRepository.save ctx rt definition).run w).2.foreign ctx =
          w.foreign ctx ↔
        (((WorkflowDefinitionRepository.save ctx rt definition).run w).1.isOk = true →
          OwnDefinition ctx w definition.definitionId)) ∧
    (∀ rt execution,
      ((WorkflowExecutionRepository.save ctx rt execution).run w).2.foreign ctx =
          w.foreign ctx ↔
        (((WorkflowExecutionRepository.save ctx rt execution).run w).1.isOk = true →
          OwnExecution ctx w execution.executionId)) :=
  ⟨append_frame ctx w inet, appendBatch_frame ctx w inet, saveOrganization_frame ctx w,
    saveDefinition_frame ctx w, saveExecution_frame ctx w⟩

/-- An execution of tenant 3, of a definition of tenant 3. -/
def sampleExecution : WorkflowExecutionEntity :=
  WorkflowExecutionEntity.create (Pg.uuidOf 5) 1716500000000 (Pg.uuidOf 6) (Pg.uuidOf 3)
    (Pg.uuidOf 11) "system" .manual []

def sampleDefinition : WorkflowDefinitionEntity where
  definitionId := Pg.uuidOf 6
  tenantId := Pg.uuidOf 3
  name := "Onboarding"
  description := none
  trigger := ⟨.manual, none, none, none⟩
  steps := []
  version := 1
  status := .active
  createdBy := Pg.uuidOf 4
  createdAt := 1716500000000
  updatedAt := 1716500000000

def sampleWorkflows : World :=
  { sampleWorld with
    workflowDefinitions :=
      ⟨[{ WorkflowDefinitionRepository.toOrm sampleDefinition with
          createdAt := some 1716500000000, updatedAt := some 1716500000000 }],
        List.nodup_singleton _⟩
    workflowExecutions :=
      ⟨[{ WorkflowExecutionRepository.toOrm sampleExecution with
          createdAt := some 1716500000000, updatedAt := some 1716500000000 }],
        List.nodup_singleton _⟩ }

/-- Tenant 1 saves an entity of its own under the key of tenant 3's row. -/
theorem save_takes_over_foreign_row :
    ¬ ∀ (tenantId : String) (w : World) (rt : Runtime) (execution : WorkflowExecutionEntity),
      tenantId ≠ "" →
      ((WorkflowExecutionRepository.save (some tenantId) rt execution).run w).2.foreign
        (some tenantId) = w.foreign (some tenantId) := by
  intro hclaim
  have hframe := hclaim (Pg.uuidOf 1) sampleWorkflows sampleRuntime
    { sampleExecution with tenantId := Pg.uuidOf 1 } (by decide +kernel)
  revert hframe
  decide +kernel

end Atlas
