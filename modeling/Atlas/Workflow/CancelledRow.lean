import Atlas.Isolation.WriteFrame
import Atlas.Workflow.Handlers

/-!
# Atlas.Workflow.CancelledRow

What a cancellation makes of a stored execution.

The row goes through `toDomain`, `cancel`, `toOrm` and the columns of the
table; `cancelled` is what comes out where every column accepts its value
(`Accepts`).  `execute_run` and `execute_refused` are the two outcomes of the
handler; the rest of the module reads them: when the cancellation is persisted,
and when a read afterwards answers the same.
-/

namespace Atlas

open StoreKit TenantAwareRepository

/-! ## The row -/

namespace WorkflowExecutionOrmEntity

/-- Every column gives back the value of the row. -/
structure Kept (row : WorkflowExecutionOrmEntity) : Prop where
  id : Pg.uuid row.id = some row.id
  definitionId : Pg.uuid row.definitionId = some row.definitionId
  tenantId : Pg.uuid row.tenantId = some row.tenantId
  correlationId : Pg.uuid row.correlationId = some row.correlationId
  triggeredBy : Pg.varchar 255 row.triggeredBy = some row.triggeredBy
  input : Pg.jsonObject row.input = some row.input
  stepResults : WorkflowStepResult.column row.stepResults = some row.stepResults
  startedAt : Pg.nullable Pg.timestamptz row.startedAt = some row.startedAt
  completedAt : Pg.nullable Pg.timestamptz row.completedAt = some row.completedAt
  durationMs : ∃ v, Pg.nullable Pg.int4 row.durationMs = some v
  errorMessage : Pg.nullable Pg.text row.errorMessage = some row.errorMessage

/-- What the columns store, they give back. -/
theorem kept_of_stored {orm row : WorkflowExecutionOrmEntity} (h : orm.stored = some row) :
    row.Kept := by
  have hcolumns := WorkflowExecutionOrmEntity.storedAs h
  have hinstant := fun d d' (h : Pg.timestamptz d = some d') => Pg.timestamptz_timestamptz h
  have htext : ∀ s t, Pg.text s = some t → Pg.text t = some t := by
    intro s t h
    obtain rfl := Pg.text_eq h
    exact h
  exact {
    id := Pg.uuid_uuid hcolumns.id
    definitionId := Pg.uuid_uuid hcolumns.definitionId
    tenantId := Pg.uuid_uuid hcolumns.tenantId
    correlationId := Pg.uuid_uuid hcolumns.correlationId
    triggeredBy := Pg.varchar_varchar hcolumns.triggeredBy
    input := Pg.jsonObject_jsonObject hcolumns.input
    stepResults := WorkflowStepResult.column_column hcolumns.stepResults
    startedAt := Pg.nullable_nullable hinstant hcolumns.startedAt
    completedAt := Pg.nullable_nullable hinstant hcolumns.completedAt
    durationMs := hcolumns.durationMs.1 ▸ hcolumns.durationMs.2
    errorMessage := Pg.nullable_nullable htext hcolumns.errorMessage }

theorem Kept.stored {row : WorkflowExecutionOrmEntity} (h : row.Kept) : row.stored = some row := by
  obtain ⟨duration, hduration⟩ := h.durationMs
  simp only [WorkflowExecutionOrmEntity.stored, h.id, h.definitionId, h.tenantId, h.correlationId,
    h.triggeredBy, h.input, h.stepResults, h.startedAt, h.completedAt, hduration, h.errorMessage,
    Option.bind_eq_bind, Option.bind_some]

/-- The row as a cancellation at `now` leaves it. -/
def cancelled (row : WorkflowExecutionOrmEntity) (now savedAt : Js.Date) (reason : Option String) :
    WorkflowExecutionOrmEntity :=
  { row with
    status := .cancelled
    completedAt := some now
    durationMs := match row.startedAt with
      | some startedAt => some (now - startedAt)
      | none => row.durationMs
    errorMessage := (Js.truthy reason).or row.errorMessage
    updatedAt := some savedAt }

/-- The values that `cancel` computes fit their columns. -/
structure Fits (row : WorkflowExecutionOrmEntity) (now : Js.Date) (reason : Option String) :
    Prop where
  /-- A `text` column holds no NUL character. -/
  reason : ∀ text, reason = some text → '\x00' ∉ text.toList
  /-- A `timestamptz` column holds no instant before 4713 BC. -/
  instant : -210866803200000 ≤ now
  /-- An `integer` column has 32 bits. -/
  duration : ∀ startedAt, row.startedAt = some startedAt →
    -2147483648 ≤ now - startedAt ∧ now - startedAt ≤ 2147483647

theorem text_isSome_iff (s : String) : (Pg.text s).isSome = true ↔ '\x00' ∉ s.toList := by
  unfold Pg.text
  simp

/-- The columns accept the cancelled row of a stored one where the new values fit. -/
theorem kept_cancelled {row : WorkflowExecutionOrmEntity} {now : Js.Date} {reason : Option String}
    (h : row.Kept) (hfits : row.Fits now reason) (savedAt : Js.Date) :
    (row.cancelled now savedAt reason).Kept := by
  refine { h with completedAt := ?_, durationMs := ?_, errorMessage := ?_ }
  · simp [cancelled, Pg.nullable, Pg.timestamptz, hfits.instant]
  · cases hstarted : row.startedAt with
    | none => simpa only [cancelled, hstarted] using h.durationMs
    | some startedAt =>
        simp [cancelled, hstarted, Pg.nullable, Pg.int4, hfits.duration startedAt hstarted]
  · refine Pg.nullable_or ?_ h.errorMessage
    cases htruthy : Js.truthy reason with
    | none => rfl
    | some text =>
        have hsame : reason = some text := Js.eq_of_truthy htruthy
        obtain ⟨t, ht⟩ := Option.isSome_iff_exists.mp
          ((text_isSome_iff text).mpr (hfits.reason text hsame))
        obtain rfl := Pg.text_eq ht
        rw [Pg.nullable, ht, Option.map_some]

/-- A cancelled row that the columns store fits. -/
theorem fits_of_stored {row stored : WorkflowExecutionOrmEntity} {createdAt : Option Js.Date}
    {now savedAt : Js.Date} {reason : Option String}
    (h : { row.cancelled now savedAt reason with createdAt }.stored = some stored) :
    row.Fits now reason := by
  have hcolumns := WorkflowExecutionOrmEntity.storedAs h
  have hcompleted := hcolumns.completedAt
  obtain ⟨_, hduration⟩ := hcolumns.durationMs.2
  have herror := hcolumns.errorMessage
  refine ⟨fun text hreason => ?_, ?_, fun startedAt hstarted => ?_⟩
  · by_cases hempty : text = ""
    · simp [hempty]
    · simp only [cancelled, hreason, Js.truthy, hempty, if_false, Option.some_or,
        Pg.nullable, Option.map_eq_some_iff] at herror
      obtain ⟨t, ht, -⟩ := herror
      exact (text_isSome_iff text).mp (by rw [ht, Option.isSome_some])
  · simp only [cancelled, Pg.nullable, Pg.timestamptz, Option.map_eq_some_iff] at hcompleted
    obtain ⟨_, hinstant, -⟩ := hcompleted
    by_cases hnow : -210866803200000 ≤ now
    · exact hnow
    · rw [if_neg hnow] at hinstant
      cases hinstant
  · simp only [cancelled, hstarted, Pg.nullable, Pg.int4, Option.map_eq_some_iff] at hduration
    obtain ⟨_, hint4, -⟩ := hduration
    by_cases hfits : -2147483648 ≤ now - startedAt ∧ now - startedAt ≤ 2147483647
    · exact hfits
    · rw [if_neg hfits] at hint4
      cases hint4

end WorkflowExecutionOrmEntity

/-! ## The handler -/

namespace CancelWorkflowExecutionHandler

/-- The row is in the table, as the columns and the foreign key have it. -/
structure Row (w : World) (row : WorkflowExecutionOrmEntity) : Prop where
  mem : row ∈ w.workflowExecutions.rows
  stored : row.stored = some row
  allowed : WorkflowExecutionRepository.allowed w row = true

theorem Row.noting {w : World} {row : WorkflowExecutionOrmEntity} (h : Row w row)
    (ctx : Option String) : Row (w.noting ctx) row :=
  ⟨h.mem, h.stored, h.allowed⟩

/-- The command is for the row, the active tenant is the row's, the row is not
over, and what `cancel` computes fits the columns. -/
structure Accepts (ctx : Option String) (rt : Runtime) (command : CancelWorkflowExecutionCommand)
    (row : WorkflowExecutionOrmEntity) : Prop where
  key : Pg.uuid command.executionId = some row.id
  tenant : Js.truthy ctx = some row.tenantId
  live : WorkflowExecutionEntity.isTerminal row.status = false
  fits : row.Fits rt.now command.reason

/-- The database after a cancellation of the row. -/
def cancelledWorld (ctx : Option String) (rt : Runtime) (command : CancelWorkflowExecutionCommand)
    (row : WorkflowExecutionOrmEntity) (w : World) : World :=
  { (w.noting ctx).noting ctx with
    workflowExecutions :=
      w.workflowExecutions.put (row.cancelled rt.now rt.savedAt command.reason) }

/-- A cancellation is saved as the row it read, `cancelled`. -/
theorem toOrm_cancel {row : WorkflowExecutionOrmEntity} {loadedAt now : Js.Date}
    {reason : Option String} {entity : WorkflowExecutionEntity}
    (h : (WorkflowExecutionRepository.toDomain loadedAt row).cancel now reason = .ok entity)
    (createdAt : Option Js.Date) (savedAt : Js.Date) :
    WorkflowExecutionRepository.table.dated createdAt (some savedAt)
        (WorkflowExecutionRepository.toOrm entity) =
      { row.cancelled now savedAt reason with createdAt } := by
  unfold WorkflowExecutionEntity.cancel at h
  split at h
  · cases h
  · obtain rfl := Except.ok.inj h
    rfl

/-- On an update the row keeps its creation date, and nothing else of the old
row is left. -/
theorem merge_cancelled (row : WorkflowExecutionOrmEntity) (createdAt : Option Js.Date)
    (now savedAt : Js.Date) (reason : Option String) :
    WorkflowExecutionRepository.merge row { row.cancelled now savedAt reason with createdAt } =
      row.cancelled now savedAt reason := by
  cases hstarted : row.startedAt with
  | none =>
      simp [WorkflowExecutionRepository.merge, WorkflowExecutionOrmEntity.cancelled, hstarted,
        Option.or_assoc]
  | some startedAt =>
      simp [WorkflowExecutionRepository.merge, WorkflowExecutionOrmEntity.cancelled, hstarted,
        Option.or_assoc]

/-- What the table makes of the cancelled row. -/
theorem saveRow_cancelled {w : World} {row : WorkflowExecutionOrmEntity} (hrow : Row w row)
    (ctx : Option String) (now savedAt : Js.Date) (reason : Option String) :
    ∃ result, Typeorm.saveRow WorkflowExecutionRepository.table.stored
        WorkflowExecutionRepository.table.merge
        (WorkflowExecutionRepository.table.allowed (w.noting ctx))
        (WorkflowExecutionRepository.table.table (w.noting ctx))
        { row.cancelled now savedAt reason with createdAt := some savedAt } = result ∧
      ((result = some (w.workflowExecutions.put (row.cancelled now savedAt reason)) ∧
        row.Fits now reason) ∨ (result = none ∧ ¬ row.Fits now reason)) := by
  refine ⟨_, rfl, ?_⟩
  show (Typeorm.saveRow WorkflowExecutionOrmEntity.stored WorkflowExecutionRepository.merge
      (WorkflowExecutionRepository.allowed (w.noting ctx)) w.workflowExecutions _ = _ ∧ _) ∨
    (Typeorm.saveRow WorkflowExecutionOrmEntity.stored WorkflowExecutionRepository.merge
      (WorkflowExecutionRepository.allowed (w.noting ctx)) w.workflowExecutions _ = _ ∧ _)
  by_cases hfits : row.Fits now reason
  · have hkept := WorkflowExecutionOrmEntity.kept_of_stored hrow.stored
    have hstored : { row.cancelled now savedAt reason with createdAt := some savedAt }.stored =
        some { row.cancelled now savedAt reason with createdAt := some savedAt } :=
      WorkflowExecutionOrmEntity.Kept.stored
        { WorkflowExecutionOrmEntity.kept_cancelled hkept hfits savedAt with }
    have hold : w.workflowExecutions.find? row.id = some row :=
      w.workflowExecutions.find?_key hrow.mem
    rw [Typeorm.saveRow_of_stored hstored rfl hold, merge_cancelled]
    exact .inl ⟨if_pos hrow.allowed, hfits⟩
  · refine .inr ⟨?_, hfits⟩
    cases hstored : { row.cancelled now savedAt reason with createdAt := some savedAt }.stored with
    | none =>
        rw [Typeorm.saveRow, hstored]
        rfl
    | some stored => exact absurd (WorkflowExecutionOrmEntity.fits_of_stored hstored) hfits

/-- What the handler answers for a row that it cancels: the entity is built from
the instance that was saved, and that one has no creation date. -/
def answer (rt : Runtime) (command : CancelWorkflowExecutionCommand)
    (row : WorkflowExecutionOrmEntity) : WorkflowExecutionDto :=
  .fromEntity (WorkflowExecutionRepository.toDomain rt.loadedAt
    { row.cancelled rt.now rt.savedAt command.reason with createdAt := none })

/-- The save of a row that is cancelled, under the tenant of the row or another. -/
theorem save_run (ctx : Option String) {rt : Runtime} {command : CancelWorkflowExecutionCommand}
    {row : WorkflowExecutionOrmEntity} {entity : WorkflowExecutionEntity} {w : World}
    (hrow : Row w row)
    (hcancel : (WorkflowExecutionRepository.toDomain rt.loadedAt row).cancel rt.now
      command.reason = .ok entity) :
    (Js.truthy ctx = some row.tenantId ∧ row.Fits rt.now command.reason ∧
      (WorkflowExecutionRepository.save ctx rt entity).run w =
        (.ok (WorkflowExecutionRepository.toDomain rt.loadedAt
            { row.cancelled rt.now rt.savedAt command.reason with createdAt := none }),
          { w.noting ctx with
            workflowExecutions :=
              w.workflowExecutions.put (row.cancelled rt.now rt.savedAt command.reason) })) ∨
    (¬ (Js.truthy ctx = some row.tenantId ∧ row.Fits rt.now command.reason) ∧
      ∃ e, (WorkflowExecutionRepository.save ctx rt entity).run w = (.error e, w.noting ctx)) := by
  have htenant : entity.tenantId = row.tenantId := by
    unfold WorkflowExecutionEntity.cancel at hcancel
    split at hcancel
    · cases hcancel
    · rw [← Except.ok.inj hcancel]
      rfl
  have hid : entity.executionId = row.id := (WorkflowExecutionEntity.cancel_cases hcancel).2.1
  have hkept := WorkflowExecutionOrmEntity.kept_of_stored hrow.stored
  have hold : ((Pg.uuid row.id).bind w.workflowExecutions.find?) = some row := by
    rw [hkept.id, Option.bind_some, w.workflowExecutions.find?_key hrow.mem]
  rw [WorkflowExecutionRepository.save, htenant]
  by_cases hctx : Js.truthy ctx = some row.tenantId
  · have hsave : (WorkflowExecutionRepository.saveOrm rt.savedAt
        (WorkflowExecutionRepository.toOrm entity)).run (w.noting ctx) = _ :=
      WorkflowExecutionRepository.table.saveOrm_run rt.savedAt
        (WorkflowExecutionRepository.toOrm entity) (w.noting ctx)
    rw [toOrm_cancel hcancel, toOrm_cancel hcancel] at hsave
    obtain ⟨result, hresult, hcases⟩ :=
      saveRow_cancelled hrow ctx rt.now rt.savedAt command.reason
    have hfound : ((Pg.uuid (WorkflowExecutionRepository.table.id
        (WorkflowExecutionRepository.toOrm entity))).bind
        (WorkflowExecutionRepository.table.table (w.noting ctx)).find?) = some row := by
      show (Pg.uuid entity.executionId).bind w.workflowExecutions.find? = some row
      rw [hid, hold]
    rw [hresult, hfound] at hsave
    rcases hcases with ⟨rfl, hfits⟩ | ⟨rfl, hfits⟩
    · refine .inl ⟨hctx, hfits, ?_⟩
      exact (Program.bind_run_ok (guardTenant_run _ w hctx)).trans (Program.bind_run_ok hsave)
    · refine .inr ⟨fun h => hfits h.2, .database, ?_⟩
      exact (Program.bind_run_ok (guardTenant_run _ w hctx)).trans (Program.bind_run_error hsave)
  · obtain ⟨e, hguard⟩ := guardTenant_run_error WorkflowExecutionRepository.name w hctx
    exact .inr ⟨fun h => hctx h.1, e, Program.bind_run_error hguard⟩

/-- An execution that is not over is cancelled. -/
theorem cancel_of_live {row : WorkflowExecutionOrmEntity} (loadedAt now : Js.Date)
    (reason : Option String) (h : WorkflowExecutionEntity.isTerminal row.status = false) :
    ∃ entity, (WorkflowExecutionRepository.toDomain loadedAt row).cancel now reason = .ok entity :=
  ⟨_, if_neg (Bool.eq_false_iff.mp h)⟩

/-- The handler cancels a row that accepts it. -/
theorem execute_run {ctx : Option String} {rt : Runtime} {command : CancelWorkflowExecutionCommand}
    {w : World} {row : WorkflowExecutionOrmEntity} (hrow : Row w row)
    (h : Accepts ctx rt command row) : (execute ctx rt command).run w =
      (.ok (.ok (answer rt command row)), cancelledWorld ctx rt command row w) := by
  have hkept := WorkflowExecutionOrmEntity.kept_of_stored hrow.stored
  have hfind := WorkflowExecutionRepository.findById_run rt.loadedAt hrow.mem h.tenant
    hkept.tenantId h.key
  obtain ⟨entity, hcancel⟩ := cancel_of_live rt.loadedAt rt.now command.reason h.live
  have hlift : (Program.lift ((WorkflowExecutionRepository.toDomain rt.loadedAt row).cancel rt.now
      command.reason) : App _).run (w.noting ctx) = (.ok entity, w.noting ctx) := by
    rw [Program.lift_run, hcancel]
  rcases save_run ctx (Row.noting hrow ctx) hcancel with ⟨-, -, hsave⟩ | ⟨hrefused, -⟩
  · refine (Program.bind_run_ok hfind).trans ?_
    refine (Program.bind_run_ok hlift).trans ?_
    exact Program.bind_run_ok hsave
  · exact absurd ⟨h.tenant, h.fits⟩ hrefused

/-- **One cancellation**: the handler cancels a row that accepts it, or answers
no `Result.ok` and changes no table. -/
theorem execute_cases (ctx : Option String) (rt : Runtime)
    (command : CancelWorkflowExecutionCommand) {w : World}
    (hrows : ∀ row ∈ w.workflowExecutions.rows, Row w row) :
    (∃ row ∈ w.workflowExecutions.rows, Accepts ctx rt command row ∧
      (execute ctx rt command).run w =
        (.ok (.ok (answer rt command row)), cancelledWorld ctx rt command row w)) ∨
    ((¬ ∃ row ∈ w.workflowExecutions.rows, Accepts ctx rt command row) ∧
      ∃ r tenants, (execute ctx rt command).run w = (r, { w with tenants }) ∧
        ∀ dto, r ≠ .ok (.ok dto)) := by
  by_cases haccepts : ∃ row ∈ w.workflowExecutions.rows, Accepts ctx rt command row
  · obtain ⟨row, hmem, h⟩ := haccepts
    exact .inl ⟨row, hmem, h, execute_run (hrows row hmem) h⟩
  · refine .inr ⟨haccepts, ?_⟩
    rcases WorkflowExecutionRepository.findById_cases ctx rt.loadedAt command.executionId w with
      ⟨e, hfind⟩ | ⟨tenant, t, k, hctx, ht, hk, hfind⟩
    · exact ⟨_, _, Program.bind_run_error hfind, by simp⟩
    · cases hfound : w.workflowExecutions.rows.find? fun row => row.tenantId = t && row.id = k with
      | none =>
          rw [hfound] at hfind
          exact ⟨_, _, Program.bind_run_ok hfind, by simp⟩
      | some row =>
          have hmem : row ∈ w.workflowExecutions.rows := List.mem_of_find?_eq_some hfound
          have hid : row.id = k := by
            have hmatch := List.find?_some hfound
            simp only [Bool.and_eq_true, decide_eq_true_eq] at hmatch
            exact hmatch.2
          rw [hfound] at hfind
          cases hcancel : (WorkflowExecutionRepository.toDomain rt.loadedAt row).cancel rt.now
              command.reason with
          | error e =>
              have hlift : (Program.lift ((WorkflowExecutionRepository.toDomain rt.loadedAt row).cancel
                  rt.now command.reason) : App _).run (w.noting ctx) = (.error e, w.noting ctx) := by
                rw [Program.lift_run, hcancel]
              exact ⟨_, _, (Program.bind_run_ok hfind).trans (Program.bind_run_error hlift), by simp⟩
          | ok entity =>
              have hlift : (Program.lift ((WorkflowExecutionRepository.toDomain rt.loadedAt row).cancel
                  rt.now command.reason) : App _).run (w.noting ctx) = (.ok entity, w.noting ctx) := by
                rw [Program.lift_run, hcancel]
              obtain ⟨hlive, -⟩ := WorkflowExecutionEntity.cancel_cases hcancel
              rcases save_run ctx (Row.noting (hrows row hmem) ctx) hcancel with
                ⟨htenant, hfits, -⟩ | ⟨-, e, hsave⟩
              · exact absurd ⟨row, hmem, hid ▸ hk, htenant, hlive, hfits⟩ haccepts
              · refine ⟨.error e, ((w.noting ctx).noting ctx).tenants, ?_, by simp⟩
                refine (Program.bind_run_ok hfind).trans ?_
                refine (Program.bind_run_ok hlift).trans ?_
                exact Program.bind_run_error hsave

/-! ## When it is persisted -/

/-- **A live execution is cancelled** where the request comes from its tenant
and what `cancel` computes fits the columns. -/
theorem cancel_persists_iff (ctx : Option String) (rt : Runtime)
    (command : CancelWorkflowExecutionCommand) (w : World) (row : WorkflowExecutionOrmEntity)
    (hrows : ∀ r ∈ w.workflowExecutions.rows, Row w r) (hmem : row ∈ w.workflowExecutions.rows)
    (hlive : row.status = .pending ∨ row.status = .running)
    (hkey : Pg.uuid command.executionId = some row.id) :
    (∃ dto w', (execute ctx rt command).run w = (.ok (.ok dto), w') ∧
      w'.workflowExecutions.find? row.id =
        some (row.cancelled rt.now rt.savedAt command.reason)) ↔
    Js.truthy ctx = some row.tenantId ∧ row.Fits rt.now command.reason := by
  rcases execute_cases ctx rt command hrows with
    ⟨found, hfound, haccepts, hrun⟩ | ⟨hrefused, r, tenants, hrun, hanswer⟩
  · have hsame : found = row := by
      have hid : found.id = row.id := Option.some.inj (haccepts.key.symm.trans hkey)
      exact w.workflowExecutions.eq_of_key_eq hfound hmem hid
    obtain rfl := hsame
    constructor
    · intro _
      exact ⟨haccepts.tenant, haccepts.fits⟩
    · intro _
      exact ⟨_, _, hrun, Table.find?_put_self _ _⟩
  · constructor
    · rintro ⟨dto, w', hok, -⟩
      rw [hrun] at hok
      exact absurd (Prod.mk.inj hok).1 (hanswer dto)
    · intro ⟨htenant, hfits⟩
      have hopen : WorkflowExecutionEntity.isTerminal row.status = false := by
        rcases hlive with hstatus | hstatus
        · rw [hstatus]
          rfl
        · rw [hstatus]
          rfl
      exact absurd ⟨row, hmem, hkey, htenant, hopen, hfits⟩ hrefused

/-- An execution that has been running since it was created. -/
def runningRow : WorkflowExecutionOrmEntity :=
  { WorkflowExecutionRepository.toOrm sampleExecution with
    status := .running
    startedAt := some 1716500000000
    createdAt := some 1716500000000
    updatedAt := some 1716500000000 }

def runningWorld : World :=
  { sampleWorkflows with workflowExecutions := ⟨[runningRow], List.nodup_singleton _⟩ }

theorem runningWorld_rows : ∀ row ∈ runningWorld.workflowExecutions.rows, Row runningWorld row := by
  intro row hrow
  obtain rfl := List.mem_singleton.mp hrow
  have hkept : runningRow.Kept := ⟨Pg.uuid_uuidOf 5, Pg.uuid_uuidOf 6, Pg.uuid_uuidOf 3,
    Pg.uuid_uuidOf 11, by decide, rfl, rfl, rfl, rfl, ⟨_, rfl⟩, rfl⟩
  exact ⟨hrow, hkept.stored, by decide +kernel⟩

def cancelRunning : CancelWorkflowExecutionCommand :=
  ⟨Pg.uuidOf 5, none, Pg.uuidOf 3, Pg.uuidOf 12, none⟩

theorem fits_running (now : Int) (hnow : 1716500000000 ≤ now ∧ now ≤ 1718647483647) :
    runningRow.Fits now none := by
  refine ⟨fun text hreason => ?_, ?_, fun startedAt hstarted => ?_⟩
  · cases hreason
  · show (-210866803200000 : Int) ≤ now
    omega
  · obtain rfl := Option.some.inj hstarted
    show (-2147483648 : Int) ≤ now - 1716500000000 ∧ now - (1716500000000 : Int) ≤ 2147483647
    omega

theorem accepts_running (rt : Runtime) (hnow : 1716500000000 ≤ rt.now ∧ rt.now ≤ 1718647483647) :
    Accepts (some (Pg.uuidOf 3)) rt cancelRunning runningRow :=
  ⟨Pg.uuid_uuidOf 5, rfl, rfl, fits_running rt.now hnow⟩

/-- An execution that has run for a second is cancelled. -/
theorem cancel_persists_soon : ∃ dto w', (execute (some (Pg.uuidOf 3))
      { sampleRuntime with now := 1716500001000 } cancelRunning).run runningWorld =
        (.ok (.ok dto), w') ∧
      w'.workflowExecutions.find? (Pg.uuidOf 5) =
        some (runningRow.cancelled 1716500001000 sampleRuntime.savedAt none) := by
  refine (cancel_persists_iff (some (Pg.uuidOf 3)) { sampleRuntime with now := 1716500001000 }
    cancelRunning runningWorld runningRow runningWorld_rows (List.mem_singleton_self _) (.inr rfl)
    (Pg.uuid_uuidOf 5)).mpr ⟨rfl, fits_running _ (by decide)⟩

/-- After twenty-five days the duration is out of range. -/
theorem cancel_after_25_days :
    ¬ ∀ (ctx : Option String) (rt : Runtime) (command : CancelWorkflowExecutionCommand) (w : World)
      (row : WorkflowExecutionOrmEntity), (∀ r ∈ w.workflowExecutions.rows, Row w r) →
      row ∈ w.workflowExecutions.rows → (row.status = .pending ∨ row.status = .running) →
      (∀ startedAt, row.startedAt = some startedAt → startedAt ≤ rt.now) →
      Pg.uuid command.executionId = some row.id → Js.truthy ctx = some row.tenantId →
      ∃ dto w', (execute ctx rt command).run w = (.ok (.ok dto), w') ∧
        w'.workflowExecutions.find? row.id =
          some (row.cancelled rt.now rt.savedAt command.reason) := by
  intro hclaim
  have hcancelled := hclaim (some (Pg.uuidOf 3))
    { sampleRuntime with now := 1716500000000 + 25 * 86400000 } cancelRunning runningWorld runningRow
    runningWorld_rows (List.mem_singleton_self _) (.inr rfl)
    (fun startedAt hstarted => by
      obtain rfl := Option.some.inj hstarted
      decide) (Pg.uuid_uuidOf 5) rfl
  obtain ⟨dto, w', hrun, -⟩ := hcancelled
  rcases execute_cases (some (Pg.uuidOf 3)) { sampleRuntime with now := 1716500000000 + 25 * 86400000 }
    cancelRunning runningWorld_rows with ⟨row, hmem, haccepts, -⟩ | ⟨-, r, tenants, hrefused, hanswer⟩
  · obtain rfl := List.mem_singleton.mp hmem
    exact absurd (haccepts.fits.duration 1716500000000 rfl) (by decide)
  · exact hanswer dto (congrArg Prod.fst (hrefused.symm.trans hrun))

/-! ## What a read answers afterwards -/

/-- A read of a row of the active tenant. -/
theorem get_run {ctx : Option String} {w : World} {row : WorkflowExecutionOrmEntity}
    {query : GetWorkflowExecutionQuery} (rt : Runtime) (hmem : row ∈ w.workflowExecutions.rows)
    (hctx : Js.truthy ctx = some row.tenantId) (ht : Pg.uuid row.tenantId = some row.tenantId)
    (hk : Pg.uuid query.executionId = some row.id) :
    (GetWorkflowExecutionHandler.execute ctx rt query).run w =
      (.ok (.ok (.fromEntity (WorkflowExecutionRepository.toDomain rt.loadedAt row))),
        w.noting ctx) :=
  Program.bind_run_ok (WorkflowExecutionRepository.findById_run rt.loadedAt hmem hctx ht hk)

/-- **A cancellation answers what the next read answers** where the clock, when
its answer is built, still shows the instant the execution was created. -/
theorem cancel_then_get_iff (ctx : Option String) (rt rt' : Runtime)
    (command : CancelWorkflowExecutionCommand) (query : GetWorkflowExecutionQuery) (w w' : World)
    (row : WorkflowExecutionOrmEntity) (createdAt : Js.Date) (dto : WorkflowExecutionDto)
    (hrows : ∀ r ∈ w.workflowExecutions.rows, Row w r) (hmem : row ∈ w.workflowExecutions.rows)
    (hcreated : row.createdAt = some createdAt)
    (hkey : Pg.uuid command.executionId = some row.id)
    (hquery : Pg.uuid query.executionId = some row.id)
    (hcancel : (execute ctx rt command).run w = (.ok (.ok dto), w')) :
    (GetWorkflowExecutionHandler.execute ctx rt' query).run w' = (.ok (.ok dto), w'.noting ctx) ↔
      rt.loadedAt = createdAt := by
  rcases execute_cases ctx rt command hrows with
    ⟨found, hfound, haccepts, hrun⟩ | ⟨-, r, tenants, hrun, hanswer⟩
  · have hsame : found = row := by
      have hid : found.id = row.id := Option.some.inj (haccepts.key.symm.trans hkey)
      exact w.workflowExecutions.eq_of_key_eq hfound hmem hid
    obtain rfl := hsame
    obtain ⟨hdto, rfl⟩ := Prod.mk.inj (hcancel.symm.trans hrun)
    have hstored : found.cancelled rt.now rt.savedAt command.reason ∈
        (cancelledWorld ctx rt command found w).workflowExecutions.rows :=
      Table.mem_of_find? (Table.find?_put_self w.workflowExecutions _)
    have hkept := WorkflowExecutionOrmEntity.kept_of_stored (hrows found hmem).stored
    rw [get_run rt' hstored haccepts.tenant hkept.tenantId hquery, Except.ok.inj (Except.ok.inj hdto)]
    have hfields : ∀ loadedAt,
        WorkflowExecutionDto.fromEntity (WorkflowExecutionRepository.toDomain loadedAt
          (found.cancelled rt.now rt.savedAt command.reason)) =
        { answer rt command found with createdAt := Js.toISOString createdAt } := by
      intro loadedAt
      simp only [WorkflowExecutionDto.fromEntity, WorkflowExecutionRepository.toDomain, answer,
        WorkflowExecutionOrmEntity.cancelled, hcreated, Option.getD_some]
    have hanswered : (answer rt command found).createdAt = Js.toISOString rt.loadedAt := rfl
    rw [hfields]
    constructor
    · intro h
      have hdates := congrArg WorkflowExecutionDto.createdAt
        (Except.ok.inj (Except.ok.inj (Prod.mk.inj h).1))
      exact (Js.toISOString_inj.mp (hdates.trans hanswered)).symm
    · intro h
      rw [← h, ← hanswered]
  · rw [hrun] at hcancel
    exact absurd (Prod.mk.inj hcancel).1 (hanswer dto)

def getRunning : GetWorkflowExecutionQuery := ⟨Pg.uuidOf 3, Pg.uuidOf 12, Pg.uuidOf 5⟩

/-- Cancelled in the millisecond it was created. -/
theorem cancel_then_get_at_once :
    (GetWorkflowExecutionHandler.execute (some (Pg.uuidOf 3)) sampleRuntime getRunning).run
        (cancelledWorld (some (Pg.uuidOf 3)) { sampleRuntime with loadedAt := 1716500000000 }
          cancelRunning runningRow runningWorld) =
      (.ok (.ok (answer { sampleRuntime with loadedAt := 1716500000000 } cancelRunning runningRow)),
        (cancelledWorld (some (Pg.uuidOf 3)) { sampleRuntime with loadedAt := 1716500000000 }
          cancelRunning runningRow runningWorld).noting (some (Pg.uuidOf 3))) :=
  (cancel_then_get_iff (some (Pg.uuidOf 3)) { sampleRuntime with loadedAt := 1716500000000 }
    sampleRuntime cancelRunning getRunning runningWorld _ runningRow 1716500000000 _ runningWorld_rows
    (List.mem_singleton_self _) rfl (Pg.uuid_uuidOf 5) (Pg.uuid_uuidOf 5)
    (execute_run (runningWorld_rows _ (List.mem_singleton_self _))
      (accepts_running _ (by decide)))).mpr rfl

/-- A second later the answer has another creation date. -/
theorem cancel_answers_another_date :
    ¬ ∀ (ctx : Option String) (rt rt' : Runtime) (command : CancelWorkflowExecutionCommand)
      (query : GetWorkflowExecutionQuery) (w w' : World) (row : WorkflowExecutionOrmEntity)
      (createdAt : Js.Date) (dto : WorkflowExecutionDto),
      (∀ r ∈ w.workflowExecutions.rows, Row w r) → row ∈ w.workflowExecutions.rows →
      row.createdAt = some createdAt → Pg.uuid command.executionId = some row.id →
      Pg.uuid query.executionId = some row.id →
      (execute ctx rt command).run w = (.ok (.ok dto), w') →
      (GetWorkflowExecutionHandler.execute ctx rt' query).run w' =
        (.ok (.ok dto), w'.noting ctx) := by
  intro hclaim
  have hsame := hclaim (some (Pg.uuidOf 3)) { sampleRuntime with loadedAt := 1716500001000 }
    sampleRuntime cancelRunning getRunning runningWorld
    (cancelledWorld (some (Pg.uuidOf 3)) { sampleRuntime with loadedAt := 1716500001000 }
      cancelRunning runningRow runningWorld) runningRow 1716500000000
    (answer { sampleRuntime with loadedAt := 1716500001000 } cancelRunning runningRow)
    runningWorld_rows (List.mem_singleton_self _) rfl (Pg.uuid_uuidOf 5) (Pg.uuid_uuidOf 5)
    (execute_run (runningWorld_rows _ (List.mem_singleton_self _)) (accepts_running _ (by decide)))
  have hput : runningRow.cancelled sampleRuntime.now sampleRuntime.savedAt none ∈
      (cancelledWorld (some (Pg.uuidOf 3)) { sampleRuntime with loadedAt := 1716500001000 }
        cancelRunning runningRow runningWorld).workflowExecutions.rows :=
    Table.mem_of_find? (Table.find?_put_self _ _)
  have hread : (GetWorkflowExecutionHandler.execute (some (Pg.uuidOf 3)) sampleRuntime
      getRunning).run _ = _ :=
    get_run sampleRuntime hput rfl (Pg.uuid_uuidOf 3) (Pg.uuid_uuidOf 5)
  have hdates := congrArg WorkflowExecutionDto.createdAt
    (Except.ok.inj (Except.ok.inj (Prod.mk.inj (hread.symm.trans hsame)).1))
  exact absurd (Js.toISOString_inj.mp hdates) (by decide)

end CancelWorkflowExecutionHandler

end Atlas
