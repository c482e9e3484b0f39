import Atlas.Audit.Handlers
import Atlas.Lib.Run
import Atlas.PlatformEvents.Forwarding

/-!
# Atlas.Audit.AppendOnly

Runs of the calls that reach the audit log, under any contexts.

`Logged` says what a call did to the log: it appended some rows, of the active
tenant, and which.  `run_logged` is the step, and a run is its induction: the
log of an earlier state is a prefix of the log of a later one.
-/

namespace Atlas

open StoreKit TenantAwareRepository

namespace AuditLog

/-! ## Calls -/

inductive Operation where
  | append (event : AuditEventEntity)
  | appendBatch (events : List AuditEventEntity)
  | findById (id : String)
  | query (ties : Typeorm.Arrangement AuditEventOrmEntity)
      (filter : AuditEventRepository.AuditEventFilter) (options : PaginationOptions)
  | record (rt : Runtime) (inner : Except Exception Unit) (attempt : OutboxAttempt)
      (command : RecordAuditEventCommand)

/-- A call with the tenant of the active context. -/
structure Call where
  ctx : Option String
  operation : Operation

variable (inet : String → Option String) (otherDates : String → Option Js.Date)

/-- The call, without its answer. -/
def Call.execute (call : Call) : App Unit :=
  match call.operation with
  | .append event => do
      let _ ← AuditEventRepository.append inet call.ctx event
      return ()
  | .appendBatch events => AuditEventRepository.appendBatch inet call.ctx events
  | .findById id => do
      let _ ← AuditEventRepository.findById call.ctx id
      return ()
  | .query ties filter options => do
      let _ ← AuditEventRepository.query call.ctx ties filter options
      return ()
  | .record rt inner attempt command => do
      let _ ← RecordAuditEventHandler.execute
        (ForwardingEventBus.publish otherDates inner attempt) inet call.ctx rt command
      return ()

def Call.run (w : World) (call : Call) : Except Exception Unit × World :=
  (call.execute inet otherDates).run w

/-- The calls of the repository that insert. -/
def Operation.inserts : Operation → Bool
  | .append _ => true
  | .appendBatch _ => true
  | _ => false

/-! ## What a call does to the log -/

/-- A call that ends as `answer` turned the log `log` into `log'` by appending
`rows`. -/
structure Logged (call : Call) (answer : Except Exception Unit)
    (log log' rows : List AuditEventOrmEntity) : Prop where
  appended : log' = log ++ rows
  /-- The rows are of the active tenant. -/
  tenant : ∀ row ∈ rows, ∃ tenantId, Js.truthy call.ctx = some tenantId ∧
    Pg.uuid tenantId = some row.tenantId
  /-- An insert that fails inserts nothing. -/
  failed : call.operation.inserts = true → ∀ e, answer = .error e → rows = []
  /-- A batch that succeeds inserts the rows of its events. -/
  batch : ∀ events, call.operation = .appendBatch events → answer = .ok () →
    events.mapM (fun event => (AuditEventRepository.toOrm event).stored inet) = some rows

/-- A call that leaves the log, and is no batch that succeeds. -/
theorem Logged.nothing {call : Call} {answer : Except Exception Unit}
    {log log' : List AuditEventOrmEntity} (hlog : log' = log)
    (hbatch : ∀ events, call.operation = .appendBatch events → answer = .ok () → events = []) :
    Logged inet call answer log log' [] where
  appended := by rw [hlog, List.append_nil]
  tenant := by simp
  failed := fun _ _ _ => rfl
  batch := by
    intro events hevents hanswer
    rw [hbatch events hevents hanswer]
    rfl

theorem append_logged (ctx : Option String) (event : AuditEventEntity) (w : World) :
    ∃ rows, Logged inet ⟨ctx, .append event⟩
      (Call.run inet otherDates w ⟨ctx, .append event⟩).1 w.auditEvents.rows
      (Call.run inet otherDates w ⟨ctx, .append event⟩).2.auditEvents.rows rows := by
  rw [Call.run, Call.execute]
  rcases AuditEventRepository.append_cases inet ctx event w with
    ⟨e, hrun⟩ | ⟨row, table, hrun, htable, hctx, htenant, -⟩
  · rw [Program.bind_run_error hrun]
    exact ⟨[], .nothing inet rfl fun _ _ hok => by cases hok⟩
  · rw [Program.bind_run_ok hrun]
    refine ⟨[row], Table.rows_of_insertAll? htable, ?_, fun _ _ h => (by cases h),
      fun _ h => (by cases h)⟩
    intro row' hrow'
    obtain rfl := List.mem_singleton.mp hrow'
    exact ⟨event.tenantId, hctx, htenant⟩

theorem appendBatch_logged (ctx : Option String) (events : List AuditEventEntity) (w : World) :
    ∃ rows, Logged inet ⟨ctx, .appendBatch events⟩
      (Call.run inet otherDates w ⟨ctx, .appendBatch events⟩).1 w.auditEvents.rows
      (Call.run inet otherDates w ⟨ctx, .appendBatch events⟩).2.auditEvents.rows rows := by
  rw [Call.run, Call.execute]
  rcases AuditEventRepository.appendBatch_run_cases inet ctx events w with
    ⟨e, hrun⟩ | ⟨hempty, hrun⟩ | ⟨rows, table, tenantId, hrun, htable, hctx, hall, hstored⟩
  · rw [hrun]
    exact ⟨[], .nothing inet rfl fun _ _ hok => by cases hok⟩
  · rw [hrun]
    refine ⟨[], .nothing inet rfl fun events' hevents' _ => ?_⟩
    cases hevents'
    exact hempty
  · rw [hrun]
    refine ⟨rows, Table.rows_of_insertAll? htable, ?_, fun _ _ h => (by cases h), ?_⟩
    · intro row hrow
      exact ⟨tenantId, hctx, AuditEventRepository.tenant_of_stored hall hstored row hrow⟩
    · intro events' hevents' _
      cases hevents'
      rw [List.mapM_map] at hstored
      exact hstored

/-- What is published leaves the log. -/
theorem leaves_publish (inner : Except Exception Unit) (attempt : OutboxAttempt)
    (event : TenantAwareEvent) :
    Program.Leaves World.auditEvents
      (ForwardingEventBus.publish otherDates inner attempt event) :=
  .bind (.bind (.lift _) fun _ => .modify fun _ => rfl) fun _ => .modify fun _ => rfl

/-- The handler appends one event; what comes after leaves the log. -/
theorem record_logged (ctx : Option String) (rt : Runtime) (inner : Except Exception Unit)
    (attempt : OutboxAttempt) (command : RecordAuditEventCommand) (w : World) :
    ∃ rows, Logged inet ⟨ctx, .record rt inner attempt command⟩
      (Call.run inet otherDates w ⟨ctx, .record rt inner attempt command⟩).1 w.auditEvents.rows
      (Call.run inet otherDates w ⟨ctx, .record rt inner attempt command⟩).2.auditEvents.rows
      rows := by
  have hhandler : (Call.run inet otherDates w
      ⟨ctx, .record rt inner attempt command⟩).2.auditEvents =
      ((AuditEventRepository.append inet ctx
        (AuditEventEntity.create rt.generateId rt.occurredAt command)).run w).2.auditEvents := by
    refine (Program.Leaves.part_bind (fun _ => .pure ()) w).trans ?_
    exact Program.Leaves.part_bind
      (fun saved => .bind (leaves_publish otherDates inner attempt _) fun _ => .pure _) w
  rw [hhandler]
  rcases AuditEventRepository.append_cases inet ctx
      (AuditEventEntity.create rt.generateId rt.occurredAt command) w with
    ⟨e, hrun⟩ | ⟨row, table, hrun, htable, hctx, htenant, -⟩
  · rw [hrun]
    exact ⟨[], .nothing inet rfl fun _ hbatch => by cases hbatch⟩
  · rw [hrun]
    refine ⟨[row], Table.rows_of_insertAll? htable, ?_, fun h => (by cases h), fun _ h => (by cases h)⟩
    intro row' hrow'
    obtain rfl := List.mem_singleton.mp hrow'
    exact ⟨command.tenantId, hctx, htenant⟩

/-- **A call appends rows of the active tenant**, all that it has to or none. -/
theorem run_logged (w : World) (call : Call) :
    ∃ rows, Logged inet call (Call.run inet otherDates w call).1 w.auditEvents.rows
      (Call.run inet otherDates w call).2.auditEvents.rows rows := by
  obtain ⟨ctx, operation⟩ := call
  cases operation with
  | append event => exact append_logged inet otherDates ctx event w
  | appendBatch events => exact appendBatch_logged inet otherDates ctx events w
  | record rt inner attempt command =>
      exact record_logged inet otherDates ctx rt inner attempt command w
  | findById id =>
      have hreads : Program.Leaves World.auditEvents
          (Call.execute inet otherDates ⟨ctx, .findById id⟩) :=
        .bind (AuditEventRepository.leaves_findById (fun _ _ => rfl) ctx id) fun _ => .pure ()
      have hlog := congrArg Table.rows (hreads.part_eq w)
      exact ⟨[], .nothing inet hlog fun _ hbatch => by cases hbatch⟩
  | query ties filter options =>
      have hreads : Program.Leaves World.auditEvents
          (Call.execute inet otherDates ⟨ctx, .query ties filter options⟩) :=
        .bind (AuditEventRepository.leaves_query (fun _ _ => rfl) ctx ties filter options)
          fun _ => .pure ()
      have hlog := congrArg Table.rows (hreads.part_eq w)
      exact ⟨[], .nothing inet hlog fun _ hbatch => by cases hbatch⟩

/-! ## Runs -/

/-- The database after the calls of a list. -/
abbrev after (w : World) (calls : List Call) : World := final (Call.run inet otherDates) w calls

/-- The log only grows. -/
theorem log_prefix (w : World) (calls : List Call) :
    w.auditEvents.rows <+: (after inet otherDates w calls).auditEvents.rows := by
  induction calls generalizing w with
  | nil => exact List.prefix_rfl
  | cons call calls ih =>
      obtain ⟨rows, hlogged⟩ := run_logged inet otherDates w call
      have hstep : w.auditEvents.rows <+: (Call.run inet otherDates w call).2.auditEvents.rows := by
        rw [hlogged.appended]
        exact List.prefix_append _ _
      exact hstep.trans (ih _)

/-- A call of the list added the row, under a context of the row's tenant. -/
def AddedBy (w : World) (calls : List Call) (row : AuditEventOrmEntity) : Prop :=
  ∃ before call rest, calls = before ++ call :: rest ∧
    row ∉ (after inet otherDates w before).auditEvents.rows ∧
    row ∈ (after inet otherDates w (before ++ [call])).auditEvents.rows ∧
    ∃ tenantId, Js.truthy call.ctx = some tenantId ∧ Pg.uuid tenantId = some row.tenantId

theorem AddedBy.cons {w : World} {call : Call} {calls : List Call} {row : AuditEventOrmEntity}
    (h : AddedBy inet otherDates (Call.run inet otherDates w call).2 calls row) :
    AddedBy inet otherDates w (call :: calls) row := by
  obtain ⟨before, added, rest, rfl, hnew, hin, htenant⟩ := h
  exact ⟨call :: before, added, rest, rfl, hnew, hin, htenant⟩

/-- A row was there before the run, or was added in it. -/
theorem row_cases (w : World) (calls : List Call) :
    ∀ row ∈ (after inet otherDates w calls).auditEvents.rows,
      row ∈ w.auditEvents.rows ∨ AddedBy inet otherDates w calls row := by
  induction calls generalizing w with
  | nil => exact fun row hrow => .inl hrow
  | cons call calls ih =>
      intro row hrow
      rcases ih (Call.run inet otherDates w call).2 row hrow with hstep | hlater
      · by_cases hold : row ∈ w.auditEvents.rows
        · exact .inl hold
        · obtain ⟨rows, hlogged⟩ := run_logged inet otherDates w call
          have hmem := hstep
          rw [hlogged.appended] at hmem
          have hrows : row ∈ rows := (List.mem_append.mp hmem).resolve_left hold
          exact .inr ⟨[], call, calls, rfl, hold, hstep, hlogged.tenant row hrows⟩
      · exact .inr hlater.cons

/-- **The audit log is append-only and consistent with the tenants**: every
call of every run appends rows of the active tenant, all that it has to or
none; no row changes or goes; and whatever row there is was there at the start
or was added under its tenant. -/
theorem append_only (w : World) (calls : List Call) :
    Each (Call.run inet otherDates) (fun w call => ∃ rows,
      Logged inet call (Call.run inet otherDates w call).1 w.auditEvents.rows
        (Call.run inet otherDates w call).2.auditEvents.rows rows) w calls ∧
    w.auditEvents.rows <+: (after inet otherDates w calls).auditEvents.rows ∧
    ∀ row ∈ (after inet otherDates w calls).auditEvents.rows,
      row ∈ w.auditEvents.rows ∨ AddedBy inet otherDates w calls row :=
  ⟨each_of_invariant (I := fun _ => True) (fun _ _ _ => trivial)
      (fun w call _ => run_logged inet otherDates w call) trivial,
    log_prefix inet otherDates w calls, row_cases inet otherDates w calls⟩

end AuditLog

end Atlas
