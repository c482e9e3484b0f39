import Atlas.PlatformEvents.Atomicity

/-!
# Atlas.PlatformEvents.Backbone

Which platform events the outbox takes.

The events of a triggered workflow and of a recorded audit event repeat values
that the row written before has just got past its own columns.  The event of a
registered user names the tenant `global`, which is no `uuid`.
-/

namespace Atlas

open StoreKit OutboxEntryRepository

/-- The row `writeToOutbox` builds meets the `uuid` columns, and no column
refuses it. -/
structure EntersOutbox (otherDates : String → Option Js.Date) (attempt : OutboxAttempt)
    (event : TenantAwareEvent) : Prop where
  eventId : (Pg.uuid event.eventId).isSome
  tenantId : (Pg.uuid event.tenantId).isSome
  correlationId : (Pg.uuid event.correlationId).isSome
  accepted : (Publication.row? otherDates ⟨event, attempt⟩).isSome

/-- What the runtime and the database promise: the entry gets an identifier, the
clock stands in a year of four digits, and no text holds the NUL character. -/
structure Promised (attempt : OutboxAttempt) (env : CommandEnv) (w : World) : Prop where
  entryId : (Pg.uuid attempt.generateId).isSome
  createdAt : Pg.timestamptz attempt.now = some attempt.now
  year : Js.HasFourDigitYear env.rt.occurredAt
  occurredAt : Pg.timestamptz env.rt.occurredAt = some env.rt.occurredAt
  names : ∀ row ∈ w.workflowDefinitions.rows, Pg.text row.name = some row.name

/-- The values of an event that the row takes over, one by one. -/
structure FitsColumns (event : TenantAwareEvent) : Prop where
  eventId : (Pg.uuid event.eventId).isSome
  eventType : (Pg.varchar 150 event.eventType).isSome
  eventVersion : (Pg.int4OfNumber event.eventVersion).isSome
  tenantId : (Pg.uuid event.tenantId).isSome
  correlationId : (Pg.uuid event.correlationId).isSome
  actorId : (Pg.nullable Pg.text event.actorId).isSome
  causationId : (Pg.nullable Pg.text event.causationId).isSome
  traceId : (Pg.nullable Pg.text event.traceId).isSome
  sourceService : (Pg.text event.sourceService).isSome
  sourceVersion : (Pg.nullable Pg.text event.sourceVersion).isSome
  payload : (Pg.jsonObject event.payload).isSome

section Columns

variable {otherDates : String → Option Js.Date} {attempt : OutboxAttempt} {env : CommandEnv}
  {w : World}

/-- An event whose values fit and that is dated by the runtime enters the outbox. -/
theorem FitsColumns.enters {event : TenantAwareEvent} (h : FitsColumns event)
    (hpromised : Promised attempt env w)
    (hdate : event.occurredAt = Js.toISOString env.rt.occurredAt) :
    EntersOutbox otherDates attempt event := by
  refine ⟨h.eventId, h.tenantId, h.correlationId, ?_⟩
  obtain ⟨id, hid⟩ := Option.isSome_iff_exists.mp hpromised.entryId
  obtain ⟨eventId, heventId⟩ := Option.isSome_iff_exists.mp h.eventId
  obtain ⟨eventType, heventType⟩ := Option.isSome_iff_exists.mp h.eventType
  obtain ⟨eventVersion, heventVersion⟩ := Option.isSome_iff_exists.mp h.eventVersion
  obtain ⟨tenantId, htenantId⟩ := Option.isSome_iff_exists.mp h.tenantId
  obtain ⟨correlationId, hcorrelationId⟩ := Option.isSome_iff_exists.mp h.correlationId
  obtain ⟨actorId, hactorId⟩ := Option.isSome_iff_exists.mp h.actorId
  obtain ⟨causationId, hcausationId⟩ := Option.isSome_iff_exists.mp h.causationId
  obtain ⟨traceId, htraceId⟩ := Option.isSome_iff_exists.mp h.traceId
  obtain ⟨sourceService, hsourceService⟩ := Option.isSome_iff_exists.mp h.sourceService
  obtain ⟨sourceVersion, hsourceVersion⟩ := Option.isSome_iff_exists.mp h.sourceVersion
  obtain ⟨payload, hpayload⟩ := Option.isSome_iff_exists.mp h.payload
  have hnewDate : Js.newDate otherDates event.occurredAt = some env.rt.occurredAt := by
    rw [hdate, Js.newDate_toISOString otherDates hpromised.year]
  have hattempts : Pg.int4 ((0 : Nat) : Int) = some ((0 : Nat) : Int) := by decide
  have hlastError : Pg.nullable Pg.text none = some none := rfl
  have hprocessedAt : Pg.nullable Pg.timestamptz none = some none := rfl
  simp only [Publication.row?, entryRow, hnewDate, Option.bind_some, toOrm,
    OutboxEntryEntity.create, ForwardingEventBus.outboxParams, OutboxEntryOrmEntity.stored, hid,
    heventId, heventType, heventVersion, htenantId, hcorrelationId, hactorId, hcausationId,
    htraceId, hsourceService, hsourceVersion, hpayload, hattempts, hlastError, hprocessedAt,
    hpromised.occurredAt, hpromised.createdAt, Option.bind_eq_bind, Option.isSome_some]

/-- An identifier that is optional fits a nullable `text` column. -/
theorem nullable_text_of_uuid {o o' : Option String} (h : Pg.nullable Pg.uuid o = some o') :
    (Pg.nullable Pg.text o).isSome = true := by
  cases o with
  | none => rfl
  | some s =>
      obtain ⟨t, ht, -⟩ := Option.map_eq_some_iff.mp h
      rw [Pg.nullable, Pg.text_of_uuid ht]
      rfl

/-- The values of an audit event that its own columns took fit the outbox. -/
theorem fitsColumns_auditEventRecorded {inet : String → Option String} {event : AuditEventEntity}
    {row : AuditEventOrmEntity} (h : (AuditEventRepository.toOrm event).stored inet = some row) :
    FitsColumns (auditEventRecorded event) := by
  obtain ⟨id, hid, h⟩ := Option.bind_eq_some_iff.mp h
  obtain ⟨tenantId, htenantId, h⟩ := Option.bind_eq_some_iff.mp h
  obtain ⟨actorId, hactorId, h⟩ := Option.bind_eq_some_iff.mp h
  obtain ⟨action, haction, h⟩ := Option.bind_eq_some_iff.mp h
  obtain ⟨resourceType, hresourceType, h⟩ := Option.bind_eq_some_iff.mp h
  obtain ⟨resourceId, hresourceId, h⟩ := Option.bind_eq_some_iff.mp h
  obtain ⟨metadata, hmetadata, h⟩ := Option.bind_eq_some_iff.mp h
  obtain ⟨correlationId, hcorrelationId, -⟩ := Option.bind_eq_some_iff.mp h
  have houtcome : Pg.text event.outcome.text = some event.outcome.text := by
    cases event.outcome <;> decide
  have hpayload : ∀ m ∈ (auditEventRecorded event).payload,
      (Pg.jsonb (.str m.1)).isSome = true ∧ (Pg.jsonb m.2).isSome = true := by
    simp only [auditEventRecorded, List.forall_mem_cons]
    refine ⟨⟨by decide, Pg.jsonb_str (Pg.text_of_uuid hid)⟩,
      ⟨by decide, Pg.jsonb_str (Pg.text_of_varchar haction)⟩,
      ⟨by decide, Pg.jsonb_str (Pg.text_of_varchar hresourceType)⟩,
      ⟨by decide, Pg.jsonb_str (Pg.text_of_varchar hresourceId)⟩,
      ⟨by decide, Pg.jsonb_str houtcome⟩,
      ⟨by decide, Option.isSome_of_mem (Pg.jsonb_of_jsonObject hmetadata)⟩, by simp⟩
  exact
    { eventId := Option.isSome_of_mem hid
      eventType := by
        show (Pg.varchar 150 AUDIT_EVENT_RECORDED).isSome = true
        decide
      eventVersion := rfl
      tenantId := Option.isSome_of_mem htenantId
      correlationId := Option.isSome_of_mem hcorrelationId
      actorId := nullable_text_of_uuid hactorId
      causationId := rfl
      traceId := rfl
      sourceService := by
        show (Pg.text "atlas-saas-platform").isSome = true
        decide
      sourceVersion := rfl
      payload := (Pg.jsonObject_isSome _).trans (Pg.jsonb_obj hpayload) }

/-- The values of an execution that its own columns took fit the outbox, with
the name of its definition. -/
theorem fitsColumns_workflowTriggered {command : TriggerWorkflowCommand}
    {definition : WorkflowDefinitionEntity} {orm row : WorkflowExecutionOrmEntity}
    {loadedAt occurredAt : Js.Date} (h : orm.stored = some row)
    (hname : Pg.text definition.name = some definition.name)
    (hactor : orm.triggeredBy = command.actorId.getD "system")
    (hinput : orm.input = command.input) :
    FitsColumns (workflowTriggered occurredAt command definition
      (WorkflowExecutionRepository.toDomain loadedAt orm)) := by
  obtain ⟨id, hid, h⟩ := Option.bind_eq_some_iff.mp h
  obtain ⟨definitionId, hdefinitionId, h⟩ := Option.bind_eq_some_iff.mp h
  obtain ⟨tenantId, htenantId, h⟩ := Option.bind_eq_some_iff.mp h
  obtain ⟨correlationId, hcorrelationId, h⟩ := Option.bind_eq_some_iff.mp h
  obtain ⟨triggeredBy, htriggeredBy, h⟩ := Option.bind_eq_some_iff.mp h
  obtain ⟨input, hinputStored, -⟩ := Option.bind_eq_some_iff.mp h
  rw [hinput] at hinputStored
  have htriggerType : Pg.text orm.triggerType.text = some orm.triggerType.text := by
    cases orm.triggerType <;> decide
  have hpayload : ∀ m ∈ (workflowTriggered occurredAt command definition
      (WorkflowExecutionRepository.toDomain loadedAt orm)).payload,
      (Pg.jsonb (.str m.1)).isSome = true ∧ (Pg.jsonb m.2).isSome = true := by
    simp only [workflowTriggered, List.forall_mem_cons]
    refine ⟨⟨by decide, Pg.jsonb_str (Pg.text_of_uuid hid)⟩,
      ⟨by decide, Pg.jsonb_str (Pg.text_of_uuid hdefinitionId)⟩,
      ⟨by decide, Pg.jsonb_str hname⟩,
      ⟨by decide, Pg.jsonb_str (Pg.text_of_varchar htriggeredBy)⟩,
      ⟨by decide, Pg.jsonb_str htriggerType⟩,
      ⟨by decide, Option.isSome_of_mem (Pg.jsonb_of_jsonObject hinputStored)⟩,
      by simp⟩
  have hactorId : (Pg.nullable Pg.text command.actorId).isSome = true := by
    cases hcommand : command.actorId with
    | none => rfl
    | some actorId =>
        rw [hactor, hcommand, Option.getD_some] at htriggeredBy
        rw [Pg.nullable, Pg.text_of_varchar htriggeredBy]
        rfl
  exact
    { eventId := Option.isSome_of_mem hid
      eventType := by
        show (Pg.varchar 150 WORKFLOW_TRIGGERED).isSome = true
        decide
      eventVersion := rfl
      tenantId := Option.isSome_of_mem htenantId
      correlationId := Option.isSome_of_mem hcorrelationId
      actorId := hactorId
      causationId := rfl
      traceId := rfl
      sourceService := by
        show (Pg.text "atlas-saas-platform").isSome = true
        decide
      sourceVersion := rfl
      payload := (Pg.jsonObject_isSome _).trans (Pg.jsonb_obj hpayload) }

end Columns

/-- Registered users are announced under no tenant. -/
def PlatformCommand.isRegisterUser : PlatformCommand → Bool
  | .registerUser _ => true
  | _ => false

/-- What is left to do is to publish one event. -/
theorem event_of_run {α : Type} {m : App (Result α)} {w w' : World} {answer : α}
    {event published : TenantAwareEvent}
    (hrun : m.run w = (recordingBus event >>= fun _ => resultOk answer).run w')
    (hpublished : w'.published = w.published)
    (h : (m.run w).2.published = w.published ++ [published]) : published = event := by
  have hevents : w'.published ++ [event] = w.published ++ [published] := by
    rw [hrun] at h
    exact h
  rw [hpublished, List.append_cancel_left_eq] at hevents
  exact (List.cons.inj hevents).1.symm

/-- A registration that completes publishes an event of the tenant `global`. -/
theorem registration_publishes {env : CommandEnv} {w w' : World} {command : RegisterUserCommand}
    {answer : RegisterUserResult}
    (hrun : (RegisterUserHandler.execute recordingBus env.bcryptHash env.rt command).run w =
      (.ok (.ok answer), w')) :
    ∃ event, (PlatformCommand.registerUser command).Publishes env w event ∧
      event.tenantId = "global" := by
  rcases registerUser_cases w env.bcryptHash env.rt command with
    ⟨r, hr, hquiet⟩ | ⟨user, row, -, -, hwritten⟩
  · rw [hquiet] at hrun
    exact absurd (congrArg Prod.fst hrun) (hr answer)
  · refine ⟨userRegistered env.rt command user, ?_, rfl⟩
    rw [PlatformCommand.Publishes, PlatformCommand.execute_registerUser, hwritten]
    rfl

/-- An event of the tenant `global` is refused by the uuid column. -/
theorem global_no_uuid {otherDates : String → Option Js.Date} {attempt : OutboxAttempt}
    {event : TenantAwareEvent} (h : event.tenantId = "global") :
    ¬ EntersOutbox otherDates attempt event := by
  intro henters
  have htenant := henters.tenantId
  rw [h] at htenant
  exact absurd htenant (by decide)

/-- **Which platform events enter the outbox**: of the commands that complete,
those that do not register a user publish events whose rows meet every column;
the tenant of a registration is refused. -/
theorem enters_outbox_iff {otherDates : String → Option Js.Date} {attempt : OutboxAttempt}
    {env : CommandEnv} {w w' : World} {command : PlatformCommand} {answer : command.Answer}
    (hpromised : Promised attempt env w)
    (hrun : (command.execute env recordingBus).run w = (.ok (.ok answer), w')) :
    (∀ event, command.Publishes env w event → EntersOutbox otherDates attempt event) ↔
      command.isRegisterUser = false := by
  cases command with
  | registerUser command =>
      rw [PlatformCommand.execute_registerUser] at hrun
      obtain ⟨event, hpublishes, hglobal⟩ := registration_publishes hrun
      constructor
      · intro henters
        exact absurd (henters event hpublishes) (global_no_uuid hglobal)
      · intro hfalse
        cases hfalse
  | triggerWorkflow command =>
      refine ⟨fun _ => rfl, fun _ published hpublishes => ?_⟩
      rw [PlatformCommand.execute_triggerWorkflow] at hrun
      rw [PlatformCommand.Publishes, PlatformCommand.execute_triggerWorkflow] at hpublishes
      rcases triggerWorkflow_cases w env.ctx env.rt command with
        ⟨r, w₁, hr, -, hquiet⟩ |
        ⟨found, createdAt, row, definition, execution, saved, hfound, hdefinition, hexecution,
          hsaved, hwrites, hwritten⟩
      · rw [hquiet] at hrun
        exact absurd (congrArg Prod.fst hrun) (hr answer)
      · have hevent : published = workflowTriggered env.rt.occurredAt command definition saved :=
          event_of_run (hwritten recordingBus) rfl hpublishes
        obtain ⟨stored, hstored, -⟩ := hwrites.merged
        have hname : Pg.text definition.name = some definition.name := by
          rw [hdefinition]
          exact hpromised.names found hfound
        have hfits : FitsColumns (workflowTriggered env.rt.occurredAt command definition
            (WorkflowExecutionRepository.toDomain env.rt.loadedAt
              (WorkflowExecutionRepository.table.dated (some env.rt.savedAt) (some env.rt.savedAt)
                (WorkflowExecutionRepository.toOrm execution)))) :=
          fitsColumns_workflowTriggered hstored hname (by rw [hexecution]; rfl)
            (by rw [hexecution]; rfl)
        rw [hevent, hsaved]
        exact hfits.enters hpromised rfl
  | recordAuditEvent command =>
      refine ⟨fun _ => rfl, fun _ published hpublishes => ?_⟩
      rw [PlatformCommand.execute_recordAuditEvent] at hrun
      rw [PlatformCommand.Publishes, PlatformCommand.execute_recordAuditEvent] at hpublishes
      rcases recordAuditEvent_cases w env.inet env.ctx env.rt command with
        ⟨e, hquiet⟩ | ⟨event, row, table, hevent, -, hstored, hwritten⟩
      · rw [hquiet] at hrun
        cases hrun
      · have hpublished : published = auditEventRecorded event :=
          event_of_run (hwritten recordingBus) rfl hpublishes
        have hdate : (auditEventRecorded event).occurredAt =
            Js.toISOString env.rt.occurredAt := by
          rw [hevent]
          rfl
        rw [hpublished]
        exact (fitsColumns_auditEventRecorded hstored).enters hpromised hdate

def sampleRecording : PlatformCommand :=
  .recordAuditEvent ⟨Pg.uuidOf 3, Pg.uuidOf 4, some (Pg.uuidOf 2), .user, "invoice.paid", "invoice",
    "42", .success, [("amount", .num ⟨['7'], by decide, by decide⟩)], none, none⟩

/-- The sample commands are run for the tenant whose audit event is recorded. -/
def tenantEnv : CommandEnv := { sampleEnv with ctx := some (Pg.uuidOf 3) }

theorem promised_sample : Promised sampleAttempt tenantEnv emptyWorld where
  entryId := by decide +kernel
  createdAt := by decide +kernel
  year := by
    show _ ∧ _
    decide +kernel
  occurredAt := by decide +kernel
  names := by
    intro row hrow
    cases hrow

theorem sampleRecording_answers :
    answered ((sampleRecording.execute tenantEnv recordingBus).run emptyWorld) = true := by
  decide +kernel

theorem enters_outbox_iff_recorded :
    ∃ answer w', (sampleRecording.execute tenantEnv recordingBus).run emptyWorld =
        (.ok (.ok answer), w') ∧
      ∀ event, sampleRecording.Publishes tenantEnv emptyWorld event →
        EntersOutbox (fun _ => none) sampleAttempt event := by
  obtain ⟨answer, w', hrun⟩ := answer_of_answered sampleRecording_answers
  exact ⟨answer, w', hrun, (enters_outbox_iff promised_sample hrun).mpr rfl⟩

theorem sampleRegistration_answers :
    answered ((sampleRegistration.execute tenantEnv recordingBus).run emptyWorld) = true := by
  decide +kernel

/-- The event of a registration is dropped. -/
theorem registration_never_forwarded :
    ¬ ∀ (otherDates : String → Option Js.Date) (attempt : OutboxAttempt) (env : CommandEnv)
      (w w' : World) (command : PlatformCommand) (answer : command.Answer),
      Promised attempt env w →
      (command.execute env recordingBus).run w = (.ok (.ok answer), w') →
      ∀ event, command.Publishes env w event → EntersOutbox otherDates attempt event := by
  intro hclaim
  obtain ⟨answer, w', hrun⟩ := answer_of_answered sampleRegistration_answers
  obtain ⟨event, hpublishes, hglobal⟩ := registration_publishes hrun
  exact global_no_uuid hglobal (hclaim (fun _ => none) sampleAttempt tenantEnv emptyWorld w'
    sampleRegistration answer promised_sample hrun event hpublishes)

end Atlas
