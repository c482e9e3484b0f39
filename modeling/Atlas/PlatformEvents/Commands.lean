import Atlas.Audit.Handlers
import Atlas.Identity.Handlers
import Atlas.PlatformEvents.Forwarding
import Atlas.TenantCore.EventPublication
import Atlas.Workflow.Handlers

/-!
# Atlas.PlatformEvents.Commands

The commands that publish a platform event: registering a user, triggering a
workflow and recording an audit event.

All three write one row and then call the bus, and nothing they write is taken
back.  `execute_cases` says so once: what a command does up to the call does
not depend on the bus, and after it there is nothing left to do.
-/

namespace Atlas

open StoreKit

inductive PlatformCommand where
  | registerUser (command : RegisterUserCommand)
  | triggerWorkflow (command : TriggerWorkflowCommand)
  | recordAuditEvent (command : RecordAuditEventCommand)
deriving DecidableEq

/-- What the commands are run with. -/
structure CommandEnv where
  bcryptHash : String → String
  inet : String → Option String
  ctx : Option String
  rt : Runtime

namespace PlatformCommand

abbrev Answer : PlatformCommand → Type
  | .registerUser _ => RegisterUserResult
  | .triggerWorkflow _ => TriggerWorkflowResult
  | .recordAuditEvent _ => String

def execute (env : CommandEnv) (publish : TenantAwareEvent → App Unit) :
    (command : PlatformCommand) → App (Result command.Answer)
  | .registerUser command => RegisterUserHandler.execute publish env.bcryptHash env.rt command
  | .triggerWorkflow command => TriggerWorkflowHandler.execute publish env.ctx env.rt command
  | .recordAuditEvent command =>
      RecordAuditEventHandler.execute publish env.inet env.ctx env.rt command

/-- The event the command hands to a bus that accepts it. -/
def Publishes (env : CommandEnv) (w : World) (command : PlatformCommand)
    (event : TenantAwareEvent) : Prop :=
  ((command.execute env recordingBus).run w).2.published = w.published ++ [event]

section Execute

variable (env : CommandEnv) (publish : TenantAwareEvent → App Unit)

theorem execute_registerUser (command : RegisterUserCommand) :
    (registerUser command).execute env publish =
      RegisterUserHandler.execute publish env.bcryptHash env.rt command := rfl

theorem execute_triggerWorkflow (command : TriggerWorkflowCommand) :
    (triggerWorkflow command).execute env publish =
      TriggerWorkflowHandler.execute publish env.ctx env.rt command := rfl

theorem execute_recordAuditEvent (command : RecordAuditEventCommand) :
    (recordAuditEvent command).execute env publish =
      RecordAuditEventHandler.execute publish env.inet env.ctx env.rt command := rfl

end Execute

end PlatformCommand

/-- The tables of the domain. -/
def World.store (w : World) : World :=
  { w with outboxEntries := .empty, tenants := [], published := [] }

/-- The two states differ in what is on record about tenants alone. -/
structure Untouched (w w' : World) : Prop where
  store : w'.store = w.store
  published : w'.published = w.published
  outboxEntries : w'.outboxEntries = w.outboxEntries

theorem untouched_refl (w : World) : Untouched w w := ⟨rfl, rfl, rfl⟩

/-- What is on record about tenants is none of the tables. -/
theorem untouched_noting (w : World) (tenant : Option String) : Untouched w (w.noting tenant) :=
  ⟨rfl, rfl, rfl⟩

/-! ## What the handlers do -/

section Handlers

variable (w : World)

/-- The look-up of an address changes nothing, whether it is one of a column or
not. -/
theorem existsByEmail_cases (email : String) :
    (∃ e, (UserRepository.existsByEmail email).run w = (.error e, w)) ∨
    ∃ b, (UserRepository.existsByEmail email).run w = (.ok b, w) := by
  have hrun := written_run (Pg.text (Js.toLowerCase email)) w
  cases htext : Pg.text (Js.toLowerCase email) with
  | none =>
      rw [htext] at hrun
      left
      rw [UserRepository.existsByEmail, htext, Program.bind_run_error hrun]
      exact ⟨_, rfl⟩
  | some text =>
      rw [htext] at hrun
      right
      rw [UserRepository.existsByEmail, htext, Program.bind_run_ok hrun, Program.gets_run]
      exact ⟨_, rfl⟩

/-- A registration stops before it writes, or writes a user and announces it. -/
theorem registerUser_cases (bcryptHash : String → String) (rt : Runtime)
    (command : RegisterUserCommand) :
    (∃ r, (∀ a, r ≠ .ok (.ok a)) ∧
      ∀ publish, (RegisterUserHandler.execute publish bcryptHash rt command).run w = (r, w)) ∨
    ∃ user row, UserAggregate.create bcryptHash rt.generateId command.email command.password
        command.displayName = .ok user ∧
      UserRepository.table.Writes rt.savedAt (UserRepository.toOrm user) w row ∧
      ∀ publish, (RegisterUserHandler.execute publish bcryptHash rt command).run w =
        (publish (userRegistered rt command user) >>= fun _ =>
          resultOk ⟨user.userId, user.email.value, user.displayName⟩).run
          { w with users := w.users.put row } := by
  rcases existsByEmail_cases w command.email with ⟨e, hexists⟩ | ⟨found, hexists⟩
  · refine .inl ⟨.error e, by simp, fun publish => ?_⟩
    rw [RegisterUserHandler.execute, Program.bind_run_error hexists]
  · cases found with
    | true =>
        refine .inl ⟨.ok (.error (.conflict s!"User with email '{command.email}' already exists")),
          by simp, fun publish => ?_⟩
        rw [RegisterUserHandler.execute, Program.bind_run_ok hexists, if_pos rfl]
        rfl
    | false =>
        have hlift : (Program.lift (UserAggregate.create bcryptHash rt.generateId command.email
            command.password command.displayName) : App UserAggregate).run w = (_, w) :=
          Program.lift_run _ w
        cases hcreate : UserAggregate.create bcryptHash rt.generateId command.email
            command.password command.displayName with
        | error e =>
            rw [hcreate] at hlift
            refine .inl ⟨.error e, by simp, fun publish => ?_⟩
            rw [RegisterUserHandler.execute, Program.bind_run_ok hexists,
              if_neg Bool.false_ne_true, hcreate, Program.bind_run_error hlift]
        | ok user =>
            rw [hcreate] at hlift
            rcases UserRepository.save_cases rt.savedAt user w with
              ⟨e, hsave⟩ | ⟨row, hsave, hwrites⟩
            · refine .inl ⟨.error e, by simp, fun publish => ?_⟩
              rw [RegisterUserHandler.execute, Program.bind_run_ok hexists,
                if_neg Bool.false_ne_true, hcreate, Program.bind_run_ok hlift,
                Program.bind_run_error hsave]
            · refine .inr ⟨user, row, rfl, hwrites, fun publish => ?_⟩
              rw [RegisterUserHandler.execute, Program.bind_run_ok hexists,
                if_neg Bool.false_ne_true, hcreate, Program.bind_run_ok hlift,
                Program.bind_run_ok hsave]

/-- A trigger stops before it writes, or writes an execution of a definition
that it found and announces it. -/
theorem triggerWorkflow_cases (ctx : Option String) (rt : Runtime)
    (command : TriggerWorkflowCommand) :
    (∃ r w', (∀ a, r ≠ .ok (.ok a)) ∧ Untouched w w' ∧
      ∀ publish, (TriggerWorkflowHandler.execute publish ctx rt command).run w = (r, w')) ∨
    ∃ found createdAt row definition execution saved, found ∈ w.workflowDefinitions.rows ∧
      definition = WorkflowDefinitionRepository.toDomain rt.loadedAt found ∧
      execution = WorkflowExecutionEntity.create rt.generateId rt.now definition.definitionId
        command.tenantId command.correlationId (command.actorId.getD "system")
        command.triggerType command.input ∧
      saved = WorkflowExecutionRepository.toDomain rt.loadedAt
        (WorkflowExecutionRepository.table.dated createdAt (some rt.savedAt)
          (WorkflowExecutionRepository.toOrm execution)) ∧
      WorkflowExecutionRepository.table.Writes rt.savedAt
        (WorkflowExecutionRepository.toOrm execution) ((w.noting ctx).noting ctx) row ∧
      ∀ publish, (TriggerWorkflowHandler.execute publish ctx rt command).run w =
        (publish (workflowTriggered rt.occurredAt command definition saved) >>= fun _ =>
          resultOk ⟨saved.executionId, saved.definitionId, saved.status.text⟩).run
          { (w.noting ctx).noting ctx with
            workflowExecutions := w.workflowExecutions.put row } := by
  have hnoted := untouched_noting w ctx
  rcases WorkflowDefinitionRepository.findById_cases ctx rt.loadedAt command.definitionId w with
    ⟨e, hfind⟩ | ⟨tenant, t, k, -, -, -, hfind⟩
  · refine .inl ⟨.error e, _, by simp, hnoted, fun publish => ?_⟩
    rw [TriggerWorkflowHandler.execute, Program.bind_run_error hfind]
  · cases hrow : w.workflowDefinitions.rows.find? fun row => row.tenantId = t && row.id = k with
    | none =>
        rw [hrow] at hfind
        refine .inl ⟨.ok (.error (.notFound "WorkflowDefinition" command.definitionId)), _,
          by simp, hnoted, fun publish => ?_⟩
        rw [TriggerWorkflowHandler.execute, Program.bind_run_ok hfind]
        rfl
    | some found =>
        rw [hrow] at hfind
        have hfound := List.mem_of_find?_eq_some hrow
        generalize hdefinition : WorkflowDefinitionRepository.toDomain rt.loadedAt found =
          definition
        rw [Option.map_some, hdefinition] at hfind
        by_cases hactive : definition.isActive = true
        · generalize hexecution : WorkflowExecutionEntity.create rt.generateId rt.now
            definition.definitionId command.tenantId command.correlationId
            (command.actorId.getD "system") command.triggerType command.input = execution
          rcases WorkflowExecutionRepository.save_cases ctx rt execution (w.noting ctx) with
            ⟨e, hsave⟩ | ⟨createdAt, row, hsave, -, -, -, hwrites⟩
          · refine .inl ⟨.error e, (w.noting ctx).noting ctx, by simp, ⟨rfl, rfl, rfl⟩,
              fun publish => ?_⟩
            rw [TriggerWorkflowHandler.execute, Program.bind_run_ok hfind]
            simp only [hactive, not_true, if_false, hexecution]
            rw [Program.bind_run_error hsave]
          · refine .inr ⟨found, createdAt, row, definition, execution, _, hfound,
              hdefinition.symm, hexecution.symm, rfl, hwrites, fun publish => ?_⟩
            rw [TriggerWorkflowHandler.execute, Program.bind_run_ok hfind]
            simp only [hactive, not_true, if_false, hexecution]
            rw [Program.bind_run_ok hsave]
            rfl
        · refine .inl ⟨.ok (.error (.error
            s!"Workflow definition '{definition.definitionId}' is not active")), _, by simp,
            hnoted, fun publish => ?_⟩
          rw [TriggerWorkflowHandler.execute, Program.bind_run_ok hfind]
          simp only [hactive, Bool.false_eq_true, not_false_eq_true, if_true]
          rfl

/-- An audit event is refused, or inserted and announced. -/
theorem recordAuditEvent_cases (inet : String → Option String) (ctx : Option String)
    (rt : Runtime) (command : RecordAuditEventCommand) :
    (∃ e, ∀ publish, (RecordAuditEventHandler.execute publish inet ctx rt command).run w =
      (.error e, w.noting ctx)) ∨
    ∃ event row table, event = AuditEventEntity.create rt.generateId rt.occurredAt command ∧
      w.auditEvents.insertAll? [row] = some table ∧
      (AuditEventRepository.toOrm event).stored inet = some row ∧
      ∀ publish, (RecordAuditEventHandler.execute publish inet ctx rt command).run w =
        (publish (auditEventRecorded event) >>= fun _ => resultOk event.auditEventId).run
          { w.noting ctx with auditEvents := table } := by
  generalize hevent : AuditEventEntity.create rt.generateId rt.occurredAt command = event
  rcases AuditEventRepository.append_cases inet ctx event w with
    ⟨e, happend⟩ | ⟨row, table, happend, htable, -, -, hstored⟩
  · refine .inl ⟨e, fun publish => ?_⟩
    rw [RecordAuditEventHandler.execute, hevent, Program.bind_run_error happend]
  · refine .inr ⟨event, row, table, rfl, htable, hstored, fun publish => ?_⟩
    rw [RecordAuditEventHandler.execute, hevent, Program.bind_run_ok happend]

end Handlers

end Atlas
