import Atlas.PlatformEvents.Commands

/-!
# Atlas.PlatformEvents.Atomicity

What is left of a command when the inner bus or the outbox fails.

The row is written before the bus is called and is not taken back, so a
command is all or nothing as long as the inner bus accepts its event; what
becomes of the outbox changes nothing about that.  When the inner bus rejects,
the command rejects as well, the row stays, and the event is nowhere.
-/

namespace Atlas

open StoreKit

namespace PlatformCommand

/-- The row of the command is in its table: the user it created, the execution of
a definition it found, or the audit event. -/
def RowStored (env : CommandEnv) (w w' : World) : PlatformCommand → Prop
  | .registerUser command => ∃ user row, UserAggregate.create env.bcryptHash env.rt.generateId
        command.email command.password command.displayName = .ok user ∧
      UserRepository.table.Writes env.rt.savedAt (UserRepository.toOrm user) w row ∧
      w'.users = w.users.put row
  | .triggerWorkflow command => ∃ found ∈ w.workflowDefinitions.rows, ∃ row,
      WorkflowExecutionRepository.table.Writes env.rt.savedAt
        (WorkflowExecutionRepository.toOrm (WorkflowExecutionEntity.create env.rt.generateId
          env.rt.now (WorkflowDefinitionRepository.toDomain env.rt.loadedAt found).definitionId
          command.tenantId command.correlationId (command.actorId.getD "system")
          command.triggerType command.input))
        ((w.noting env.ctx).noting env.ctx) row ∧
      w'.workflowExecutions = w.workflowExecutions.put row
  | .recordAuditEvent command => ∃ row,
      (AuditEventRepository.toOrm (AuditEventEntity.create env.rt.generateId env.rt.occurredAt
        command)).stored env.inet = some row ∧
      w.auditEvents.insertAll? [row] = some w'.auditEvents

end PlatformCommand

/-- Up to the call of the bus a command does not depend on it: it stops before
it writes, or it writes its row and is left with an event to publish. -/
theorem execute_cases (env : CommandEnv) (command : PlatformCommand) (w : World) :
    (∃ r w', (∀ a, r ≠ .ok (.ok a)) ∧ Untouched w w' ∧
      ∀ publish, (command.execute env publish).run w = (r, w')) ∨
    ∃ event answer w', w'.published = w.published ∧ w'.outboxEntries = w.outboxEntries ∧
      command.RowStored env w w' ∧ ∀ publish, (command.execute env publish).run w =
        (publish event >>= fun _ => resultOk answer).run w' := by
  cases command with
  | registerUser command =>
      simp only [PlatformCommand.execute_registerUser]
      rcases registerUser_cases w env.bcryptHash env.rt command with
        ⟨r, hr, hrun⟩ | ⟨user, row, hcreate, hwrites, hrun⟩
      · exact .inl ⟨r, w, hr, untouched_refl w, hrun⟩
      · exact .inr ⟨_, _, { w with users := w.users.put row }, rfl, rfl,
          ⟨user, row, hcreate, hwrites, rfl⟩, hrun⟩
  | triggerWorkflow command =>
      simp only [PlatformCommand.execute_triggerWorkflow]
      rcases triggerWorkflow_cases w env.ctx env.rt command with
        ⟨r, w', hr, huntouched, hrun⟩ |
        ⟨found, _, row, definition, _, saved, hfound, rfl, rfl, -, hwrites, hrun⟩
      · exact .inl ⟨r, w', hr, huntouched, hrun⟩
      · exact .inr ⟨_, _, { (w.noting env.ctx).noting env.ctx with
          workflowExecutions := w.workflowExecutions.put row }, rfl, rfl,
          ⟨found, hfound, row, hwrites, rfl⟩, hrun⟩
  | recordAuditEvent command =>
      simp only [PlatformCommand.execute_recordAuditEvent]
      rcases recordAuditEvent_cases w env.inet env.ctx env.rt command with
        ⟨e, hrun⟩ | ⟨event, row, table, rfl, htable, hstored, hrun⟩
      · exact .inl ⟨.error e, w.noting env.ctx, by simp, untouched_noting w env.ctx, hrun⟩
      · exact .inr ⟨_, _, { w.noting env.ctx with auditEvents := table }, rfl, rfl,
          ⟨row, hstored, htable⟩, hrun⟩

namespace PlatformCommand

/-- A run of the command with `ForwardingEventBus` as the bus. -/
def forwarded (otherDates : String → Option Js.Date) (inner : Except Exception Unit)
    (attempt : OutboxAttempt) (env : CommandEnv) (w : World) (command : PlatformCommand) :
    Except Exception (Result command.Answer) × World :=
  (command.execute env (ForwardingEventBus.publish otherDates inner attempt)).run w

end PlatformCommand

open PlatformCommand

section Atomicity

variable (otherDates : String → Option Js.Date) (inner : Except Exception Unit)
  (attempt : OutboxAttempt) (env : CommandEnv) (w : World) (command : PlatformCommand)

/-- A command that rejects has changed nothing, and the event of one that has
changed something was accepted by the inner bus or is in the outbox. -/
structure Atomic : Prop where
  unchanged : ∀ e, (command.forwarded otherDates inner attempt env w).1 = .error e →
    (command.forwarded otherDates inner attempt env w).2.store = w.store
  announced : (command.forwarded otherDates inner attempt env w).2.store ≠ w.store →
    ∃ event, command.Publishes env w event ∧
      ((command.forwarded otherDates inner attempt env w).2.published = w.published ++ [event] ∨
        ∃ row ∈ (command.forwarded otherDates inner attempt env w).2.outboxEntries.rows,
          row ∉ w.outboxEntries.rows ∧ Carries otherDates event row)

/-- The bus does what the inner one does, and adds to the outbox alone. -/
theorem publish_run (event : TenantAwareEvent) :
    (ForwardingEventBus.publish otherDates inner attempt event).run w =
      match inner with
      | .ok () => (.ok (), { w with
          published := w.published ++ [event]
          outboxEntries := ForwardingEventBus.entryWritten otherDates w.outboxEntries
            ⟨event, attempt⟩ })
      | .error e => (.error e, w) := by
  cases inner with
  | error e => rfl
  | ok u => rfl

/-- A command ends with nothing written, or with its row stored and its event handed to
the inner bus, which decides on the answer and on the outbox. -/
theorem forwarded_cases :
    (∃ r w', (∀ a, r ≠ .ok (.ok a)) ∧ Untouched w w' ∧
      command.forwarded otherDates inner attempt env w = (r, w')) ∨
    ∃ event w', w'.published = w.published ∧ w'.outboxEntries = w.outboxEntries ∧
      command.RowStored env w w' ∧ command.Publishes env w event ∧
      match inner with
      | .ok () => ∃ answer table,
          command.forwarded otherDates inner attempt env w = (.ok (.ok answer), { w' with
            published := w.published ++ [event]
            outboxEntries := table })
      | .error e => command.forwarded otherDates inner attempt env w = (.error e, w') := by
  rcases execute_cases env command w with
    ⟨r, w', hr, huntouched, hrun⟩ | ⟨event, answer, w', hpublished, houtbox, hrow, hrun⟩
  · exact .inl ⟨r, w', hr, huntouched, hrun _⟩
  · right
    have hpublishes : command.Publishes env w event := by
      rw [PlatformCommand.Publishes, hrun, ← hpublished]
      rfl
    have hpublish := publish_run otherDates inner attempt w' event
    refine ⟨event, w', hpublished, houtbox, hrow, hpublishes, ?_⟩
    rw [forwarded, hrun]
    cases inner with
    | ok u =>
        rw [Program.bind_run_ok hpublish, hpublished]
        exact ⟨answer, _, rfl⟩
    | error e => exact Program.bind_run_error hpublish

/-- A command that leaves the domain as it was is atomic. -/
theorem atomic_of_store
    (h : (command.forwarded otherDates inner attempt env w).2.store = w.store) :
    Atomic otherDates inner attempt env w command where
  unchanged _ _ := h
  announced hne := absurd h hne

/-- **Commands and a failing bus.**  A command is atomic unless the inner bus
rejects after the row was written.  Then it rejects as well, the row stays in its
table, and its event was neither accepted nor put into the outbox. -/
theorem command_atomicity :
    (Atomic otherDates inner attempt env w command ↔
      inner = .ok () ∨ (command.forwarded otherDates inner attempt env w).2.store = w.store) ∧
    ∀ e, inner = .error e →
      (command.forwarded otherDates inner attempt env w).2.store ≠ w.store →
      (command.forwarded otherDates inner attempt env w).1 = .error e ∧
        command.RowStored env w (command.forwarded otherDates inner attempt env w).2 ∧
        (command.forwarded otherDates inner attempt env w).2.published = w.published ∧
        (command.forwarded otherDates inner attempt env w).2.outboxEntries = w.outboxEntries := by
  rcases forwarded_cases otherDates inner attempt env w command with
    ⟨r, w', -, huntouched, hrun⟩ | ⟨event, w', hpublished, houtbox, hrow, hpublishes, hrun⟩
  · have hstore : (command.forwarded otherDates inner attempt env w).2.store = w.store := by
      rw [hrun]
      exact huntouched.store
    have hatomic := atomic_of_store otherDates inner attempt env w command hstore
    exact ⟨⟨fun _ => .inr hstore, fun _ => hatomic⟩, fun _ _ hne => absurd hstore hne⟩
  · cases inner with
    | ok u =>
        obtain ⟨answer, table, hrun⟩ := hrun
        have hatomic : Atomic otherDates (.ok u) attempt env w command := by
          constructor
          · intro e he
            rw [hrun] at he
            cases he
          · intro _
            refine ⟨event, hpublishes, .inl ?_⟩
            rw [hrun]
        exact ⟨⟨fun _ => .inl rfl, fun _ => hatomic⟩, fun _ he => nomatch he⟩
    | error e =>
        constructor
        · constructor
          · intro hatomic
            exact .inr (hatomic.unchanged e (by rw [hrun]))
          · rintro (hok | hstore)
            · cases hok
            · exact atomic_of_store otherDates _ attempt env w command hstore
        · intro e' he' _
          obtain rfl := Except.error.inj he'
          rw [hrun]
          exact ⟨rfl, hrow, hpublished, houtbox⟩

end Atomicity

def sampleEnv : CommandEnv where
  bcryptHash password := password
  inet _ := none
  ctx := none
  rt := sampleRuntime

abbrev sampleRegistration : PlatformCommand :=
  .registerUser ⟨"ada@example.com", "correct horse", "Ada", Pg.uuidOf 4⟩

def sampleAttempt : OutboxAttempt := ⟨Pg.uuidOf 7, 1716500001000, true⟩

/-- A registration that the inner bus fails. -/
theorem command_atomicity_register :
    (sampleRegistration.forwarded (fun _ => none) (.error (.error "connection lost"))
      sampleAttempt sampleEnv emptyWorld).2.published = [] :=
  ((command_atomicity (fun _ => none) (.error (.error "connection lost")) sampleAttempt sampleEnv
    emptyWorld sampleRegistration).2 _ rfl (by decide +kernel)).2.2.1

/-- A registration whose publish fails leaves the row of the user in the table. -/
theorem failed_publish_leaves_row :
    ¬ ∀ (otherDates : String → Option Js.Date) (inner : Except Exception Unit)
      (attempt : OutboxAttempt) (env : CommandEnv) (w : World) (command : PlatformCommand),
      Atomic otherDates inner attempt env w command := by
  intro hclaim
  have hatomic := hclaim (fun _ => none) (.error (.error "connection lost")) sampleAttempt
    sampleEnv emptyWorld sampleRegistration
  have hstore := hatomic.unchanged (.error "connection lost") (by decide +kernel)
  exact absurd hstore (by decide +kernel)

end Atlas
