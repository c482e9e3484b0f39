import Atlas.Audit.Handlers
import Atlas.Isolation.Agreement
import Atlas.Lib.Run
import Atlas.Workflow.Handlers

/-!
# Atlas.Isolation.Noninterference

Runs of operations of many tenants.

To a tenant every run looks as if nobody else took part: dropping the
operations of the others changes no answer that it gets and no row that it
owns (`tenant_noninterference`).  One operation at a time, this is the
agreement of `Atlas.Isolation.Agreement` for the tenant's own operations and
its one-run half for the others; `purge` puts runs together from it.
-/

namespace Atlas

open StoreKit Program TenantAwareRepository

/-! ## Operations -/

inductive Call where
  | triggerWorkflow (command : TriggerWorkflowCommand)
  | cancelWorkflowExecution (command : CancelWorkflowExecutionCommand)
  | getWorkflowExecution (query : GetWorkflowExecutionQuery)
  | listWorkflowExecutions (ties : Typeorm.Arrangement WorkflowExecutionOrmEntity)
      (query : ListWorkflowExecutionsQuery)
  | updateOrganization (command : UpdateOrganizationCommand)
  | suspendOrganization (command : SuspendOrganizationCommand)
  | recordAuditEvent (command : RecordAuditEventCommand)
  | queryAuditEvents (ties : Typeorm.Arrangement AuditEventOrmEntity)
      (filter : AuditEventRepository.AuditEventFilter) (options : PaginationOptions)
  | findAuditEvent (id : String)

/-- A call under a tenant context, with what the runtime hands out to it and
whether the event bus accepts what it publishes. -/
structure Operation where
  ctx : Option String
  rt : Runtime
  bus : Except Exception Unit
  call : Call

inductive Answer where
  | triggered (result : Result TriggerWorkflowResult)
  | execution (result : Result WorkflowExecutionDto)
  | executions (result : Result (PaginatedResult WorkflowExecutionDto))
  | organization (result : Result OrganizationDto)
  | recorded (result : Result String)
  | auditEvents (page : PaginatedResult AuditEventEntity)
  | auditEvent (event : Option AuditEventEntity)

namespace Operation

/-- The event bus of the operation. -/
def publish (op : Operation) (event : TenantAwareEvent) : App Unit := do
  recordingBus event
  .lift op.bus

def execute (inet : String → Option String) (op : Operation) : App Answer :=
  match op.call with
  | .triggerWorkflow command =>
      Answer.triggered <$> TriggerWorkflowHandler.execute op.publish op.ctx op.rt command
  | .cancelWorkflowExecution command =>
      Answer.execution <$> CancelWorkflowExecutionHandler.execute op.ctx op.rt command
  | .getWorkflowExecution query =>
      Answer.execution <$> GetWorkflowExecutionHandler.execute op.ctx op.rt query
  | .listWorkflowExecutions ties query =>
      Answer.executions <$> ListWorkflowExecutionsHandler.execute op.ctx ties op.rt query
  | .updateOrganization command =>
      Answer.organization <$> UpdateOrganizationHandler.execute op.ctx op.rt command
  | .suspendOrganization command =>
      Answer.organization <$> SuspendOrganizationHandler.execute op.publish op.ctx op.rt command
  | .recordAuditEvent command =>
      Answer.recorded <$> RecordAuditEventHandler.execute op.publish inet op.ctx op.rt command
  | .queryAuditEvents ties filter options =>
      Answer.auditEvents <$> AuditEventRepository.query op.ctx ties filter options
  | .findAuditEvent id => Answer.auditEvent <$> AuditEventRepository.findById op.ctx id

/-- The operation is executed under the tenant. -/
def under (tenant : String) (op : Operation) : Bool := tenantOf op.ctx = some tenant

/-- The key of the row the operation may add. -/
def key (op : Operation) : Option String := Pg.uuid op.rt.generateId

def step (inet : String → Option String) (w : World) (op : Operation) :
    Except Exception Answer × World :=
  (op.execute inet).run w

end Operation

/-- Generated ids are new to the database, and no two are the same. -/
structure Fresh (w : World) (ops : List Operation) : Prop where
  new : ∀ op ∈ ops, ∀ k ∈ op.key, k ∉ w.keys
  distinct : ops.Pairwise fun a b => ∀ k ∈ a.key, b.key ≠ some k

/-! ## One operation -/

section Handlers

variable {u : String} {g : Option String} {s₀ t₀ : World} {ctx : Option String}

/-- A publish does not touch what is alike. -/
theorem publish_agree (op : Operation) (event : TenantAwareEvent) :
    Agree (Alike u g s₀ t₀) (op.publish event) (fun _ => Alike u g s₀ t₀) (Alike u g s₀ t₀) :=
  .bind (M := fun _ => Alike u g s₀ t₀) (.modify fun _ _ hst => hst.publish _ _) fun _ =>
    .lift (fun _ _ _ _ hst => hst) fun _ _ hst => hst

theorem publishAll_agree (op : Operation) (eventType : String) (events : List DomainEvent) :
    Agree (Alike u g s₀ t₀) (publishAll op.publish eventType events)
      (fun _ => Alike u g s₀ t₀) (Alike u g s₀ t₀) := by
  induction events with
  | nil => exact .pure fun _ _ hst => hst
  | cons event events ih => exact .bind (publish_agree op _) fun _ => ih

/-- A trigger with a fresh id answers alike on both sides. -/
theorem trigger_agree (hu : tenantOf ctx = some u)
    (hdefinitions : s₀.workflowDefinitions = t₀.workflowDefinitions) (op : Operation)
    (command : TriggerWorkflowCommand) :
    Agree (Both (Alike u g s₀ t₀) (NewKey g op.rt.generateId))
      (TriggerWorkflowHandler.execute op.publish ctx op.rt command)
      (fun _ => Alike u g s₀ t₀) (Alike u g s₀ t₀) := by
  have hsteady : Steady u g s₀ t₀ (Both (Alike u g s₀ t₀) (NewKey g op.rt.generateId)) :=
    steady_with (fun _ _ h => h) fun _ _ h => h
  have hown : ∀ {w₀ w : World}, NewKey g op.rt.generateId w →
      OwnKey u g w₀ op.rt.generateId w := by
    intro w₀ w hw k hk
    obtain ⟨hg, hnew⟩ := hw k hk
    refine ⟨.inr hg, fun old hold => absurd (List.mem_append_left _ ?_) hnew⟩
    rw [← Table.key_of_find? hold]
    exact List.mem_map_of_mem (Table.mem_of_find? hold)
  refine .bind (.weaken (findDefinition_agree hsteady hu _ _) (fun _ _ h => h)
    (fun _ _ _ h => h) fun _ _ h => h.1) fun definition => ?_
  cases definition with
  | none => exact .pure fun _ _ hst => hst.1
  | some definition =>
      dsimp only
      by_cases hactive : definition.isActive = true
      · rw [if_neg (not_not.mpr hactive)]
        refine .bind (.weaken (saveExecution_agree hu hdefinitions op.rt _)
          (fun s t hst => ⟨hst.1, hown hst.2.1, hown hst.2.2⟩) (fun _ _ _ h => h)
          fun _ _ h => h) fun saved => ?_
        exact .bind (publish_agree op _) fun _ => .pure fun _ _ hst => hst
      · rw [if_pos hactive]
        exact .pure fun _ _ hst => hst.1

/-- A cancellation answers alike on both sides. -/
theorem cancel_agree (hu : tenantOf ctx = some u)
    (hdefinitions : s₀.workflowDefinitions = t₀.workflowDefinitions) (rt : Runtime)
    (command : CancelWorkflowExecutionCommand) :
    Agree (Alike u g s₀ t₀) (CancelWorkflowExecutionHandler.execute ctx rt command)
      (fun _ => Alike u g s₀ t₀) (Alike u g s₀ t₀) := by
  refine .bind (findExecution_agree hu _ _) fun found => ?_
  cases found with
  | none => exact .pure fun _ _ hst => hst.1
  | some execution =>
      refine .bind (M := fun cancelled s t => execution.cancel rt.now command.reason =
          .ok cancelled ∧ Alike u g s₀ t₀ s t ∧ OwnKey u g s₀ execution.executionId s ∧
          OwnKey u g t₀ execution.executionId t)
        (.lift (fun _ hok s t hst => ⟨hok, hst.1, hst.2 _ rfl⟩) fun _ _ hst => hst.1)
        fun cancelled => .given fun hcancel => ?_
      obtain ⟨-, hid, -⟩ := WorkflowExecutionEntity.cancel_cases hcancel
      rw [← hid]
      exact .bind (saveExecution_agree hu hdefinitions rt cancelled) fun saved =>
        .pure fun _ _ hst => hst

/-- Reading an execution answers alike on both sides. -/
theorem get_agree (hu : tenantOf ctx = some u) (rt : Runtime) (query : GetWorkflowExecutionQuery) :
    Agree (Alike u g s₀ t₀) (GetWorkflowExecutionHandler.execute ctx rt query)
      (fun _ => Alike u g s₀ t₀) (Alike u g s₀ t₀) := by
  refine .bind (findExecution_agree hu _ _) fun found => ?_
  cases found with
  | none => exact .pure fun _ _ hst => hst.1
  | some execution => exact .pure fun _ _ hst => hst.1

/-- A list of executions answers alike on both sides. -/
theorem list_agree (hu : tenantOf ctx = some u)
    (ties : Typeorm.Arrangement WorkflowExecutionOrmEntity) (rt : Runtime)
    (query : ListWorkflowExecutionsQuery) :
    Agree (Alike u g s₀ t₀) (ListWorkflowExecutionsHandler.execute ctx ties rt query)
      (fun _ => Alike u g s₀ t₀) (Alike u g s₀ t₀) :=
  .bind (findMany_agree hu _ _ _ _) fun _ => .pure fun _ _ hst => hst

/-- An organization that a command has changed is saved, if the command leaves
its id and its slug. -/
theorem change_agree (hu : tenantOf ctx = some u) (husers : s₀.users = t₀.users)
    (hslugs : s₀.slugs = t₀.slugs) (savedAt : Js.Date) (id : String) (missing : Exception)
    (apply : OrganizationAggregate → Except Exception OrganizationAggregate)
    (happly : ∀ org org', apply org = .ok org' → org'.slug = org.slug)
    {next : OrganizationAggregate → App (Result OrganizationDto)}
    (hnext : ∀ saved, Agree (Alike u g s₀ t₀) (next saved) (fun _ => Alike u g s₀ t₀)
      (Alike u g s₀ t₀)) :
    Agree (Alike u g s₀ t₀) (do
      let organization ← OrganizationRepository.findById ctx id
      match organization with
      | none => resultFail missing
      | some organization => do
          let organization ← .lift (apply organization)
          let saved ← OrganizationRepository.save ctx savedAt organization
          next saved)
      (fun _ => Alike u g s₀ t₀) (Alike u g s₀ t₀) := by
  refine .bind (findOrganization_agree hu _) fun found => ?_
  cases found with
  | none => exact .pure fun _ _ hst => hst.1
  | some org =>
      refine .bind (M := fun org' s t => apply org = .ok org' ∧
          Both (Alike u g s₀ t₀) (Held u org) s t)
        (.lift (fun _ hok s t hst => ⟨hok, hst.1, hst.2 _ rfl⟩) fun _ _ hst => hst.1)
        fun org' => .given fun hok => ?_
      have hheld : ∀ w, Held u org w → Held u org' w := by
        rintro w ⟨row, hfind, hslug⟩
        exact ⟨row, hfind, by rw [hslug, happly org org' hok]⟩
      refine .bind (.weaken (saveOrganization_agree hu husers hslugs savedAt org')
        (fun s t hst => ⟨hst.1, hheld s hst.2.1, hheld t hst.2.2⟩) (fun _ _ _ h => h)
        fun _ _ h => h) hnext

/-- An audit record with a fresh id answers alike on both sides. -/
theorem record_agree (hu : tenantOf ctx = some u) (op : Operation) (inet : String → Option String)
    (command : RecordAuditEventCommand) :
    Agree (Both (Alike u g s₀ t₀) (NewKey g op.rt.generateId))
      (RecordAuditEventHandler.execute op.publish inet ctx op.rt command)
      (fun _ => Alike u g s₀ t₀) (Alike u g s₀ t₀) := by
  have happend := @appendAuditEvent_agree u g s₀ t₀ ctx hu inet
    (AuditEventEntity.create op.rt.generateId op.rt.occurredAt command)
  have hkey : (AuditEventEntity.create op.rt.generateId op.rt.occurredAt command).auditEventId =
      op.rt.generateId := rfl
  rw [hkey] at happend
  exact .bind happend fun saved => .bind (publish_agree op _) fun _ => .pure fun _ _ hst => hst

end Handlers

/-- **An operation of the tenant** answers the same in databases that are alike
to it, and leaves two that are. -/
theorem execute_agree {u : String} {s₀ t₀ : World} {op : Operation} (hu : tenantOf op.ctx = some u)
    (husers : s₀.users = t₀.users) (hdefinitions : s₀.workflowDefinitions = t₀.workflowDefinitions)
    (hslugs : s₀.slugs = t₀.slugs) (inet : String → Option String) :
    Agree (Both (Alike u op.key s₀ t₀) (NewKey op.key op.rt.generateId))
      (op.execute inet) (fun _ => Alike u op.key s₀ t₀) (Alike u op.key s₀ t₀) := by
  have hmap : ∀ {α : Type} (f : α → Answer) {R : World → World → Prop} {m : App α},
      Agree R m (fun _ => Alike u op.key s₀ t₀) (Alike u op.key s₀ t₀) →
      (∀ s t, Both (Alike u op.key s₀ t₀) (NewKey op.key op.rt.generateId) s t → R s t) →
      Agree (Both (Alike u op.key s₀ t₀) (NewKey op.key op.rt.generateId)) (f <$> m)
        (fun _ => Alike u op.key s₀ t₀) (Alike u op.key s₀ t₀) := by
    intro α f R m hm hR
    exact .bind (.weaken hm hR (fun _ _ _ h => h) fun _ _ h => h) fun a => .pure fun _ _ h => h
  cases op with
  | mk ctx rt bus call =>
      cases call with
      | triggerWorkflow command =>
          exact hmap Answer.triggered (trigger_agree hu hdefinitions _ command) fun _ _ h => h
      | cancelWorkflowExecution command =>
          exact hmap Answer.execution (cancel_agree hu hdefinitions rt command) fun _ _ h => h.1
      | getWorkflowExecution query =>
          exact hmap Answer.execution (get_agree hu rt query) fun _ _ h => h.1
      | listWorkflowExecutions ties query =>
          exact hmap Answer.executions (list_agree hu ties rt query) fun _ _ h => h.1
      | updateOrganization command =>
          refine hmap Answer.organization (change_agree hu husers hslugs rt.savedAt _ _
            (command.apply rt) (fun org org' hok => ?_) fun saved => .pure fun _ _ hst => hst)
            fun _ _ h => h.1
          obtain ⟨name, plan, updatedAt, rfl⟩ := UpdateOrganizationCommand.apply_cases hok
          rfl
      | suspendOrganization command =>
          refine hmap Answer.organization (change_agree hu husers hslugs rt.savedAt _ _
            (command.apply rt) (fun org org' hok => ?_) fun saved =>
              .bind (publishAll_agree _ _ _) fun _ => .pure fun _ _ hst => hst) fun _ _ h => h.1
          obtain ⟨-, event, rfl⟩ := OrganizationAggregate.suspend_cases hok
          rfl
      | recordAuditEvent command =>
          exact hmap Answer.recorded (record_agree hu _ inet command) fun _ _ h => h
      | queryAuditEvents ties filter options =>
          exact hmap Answer.auditEvents (queryAuditEvents_agree hu ties filter options)
            fun _ _ h => h.1
      | findAuditEvent id =>
          exact hmap Answer.auditEvent (findAuditEvent_agree hu id) fun _ _ h => h.1

/-! ## Without a tenant -/

/-- The program rejects with one error in every state, and leaves the state as
it is but for the record. -/
def Rejects {α : Type} (ctx : Option String) (m : App α) : Prop :=
  ∃ e, ∀ w : World, m.run w = (.error e, w.noting ctx)

/-- What rejects at once rejects whatever follows. -/
theorem rejects_bind {α β : Type} {ctx : Option String} {m : App α} {f : α → App β}
    (h : Rejects ctx m) : Rejects ctx (m >>= f) := by
  obtain ⟨e, hrun⟩ := h
  exact ⟨e, fun w => bind_run_error (hrun w)⟩

theorem requireTenantId_rejects {ctx : Option String} (h : Js.truthy ctx = none) (name : String) :
    Rejects ctx (requireTenantId name ctx) := by
  obtain ⟨message, hrun⟩ := requireTenantId_absent name h
  exact ⟨_, hrun⟩

/-- **An operation without a tenant** fails, and neither reads nor writes a
row. -/
theorem execute_rejects (inet : String → Option String) {op : Operation}
    (h : Js.truthy op.ctx = none) : Rejects op.ctx (op.execute inet) := by
  have hrequire := requireTenantId_rejects h
  cases op with
  | mk ctx rt bus call =>
      cases call with
      | triggerWorkflow command =>
          exact rejects_bind (rejects_bind (rejects_bind (rejects_bind (hrequire _))))
      | cancelWorkflowExecution command =>
          exact rejects_bind (rejects_bind (rejects_bind (rejects_bind (hrequire _))))
      | getWorkflowExecution query =>
          exact rejects_bind (rejects_bind (rejects_bind (rejects_bind (hrequire _))))
      | listWorkflowExecutions ties query =>
          exact rejects_bind (rejects_bind (rejects_bind (hrequire _)))
      | updateOrganization command =>
          exact rejects_bind (rejects_bind (rejects_bind (rejects_bind (hrequire _))))
      | suspendOrganization command =>
          exact rejects_bind (rejects_bind (rejects_bind (rejects_bind (hrequire _))))
      | recordAuditEvent command =>
          exact rejects_bind (rejects_bind (rejects_bind (rejects_bind (hrequire _))))
      | queryAuditEvents ties filter options =>
          exact rejects_bind (rejects_bind (hrequire _))
      | findAuditEvent id =>
          exact rejects_bind (rejects_bind (rejects_bind (hrequire _)))

/-! ## Runs -/

/-- Two databases look the same to a tenant, and the operations to come find
their keys free in both. -/
structure SameTo (tenant : String) (ops : List Operation) (s t : World) : Prop where
  own : s.own tenant = t.own tenant
  users : s.users = t.users
  definitions : s.workflowDefinitions = t.workflowDefinitions
  slugs : s.slugs = t.slugs
  normal : s.Normal ∧ t.Normal
  fresh : Fresh s ops ∧ Fresh t ops

/-- The first operation of a run finds its id free. -/
theorem newKey_of_fresh {w : World} {op : Operation} {ops : List Operation}
    (h : Fresh w (op :: ops)) : NewKey op.key op.rt.generateId w :=
  fun k hk => ⟨hk, h.new op List.mem_cons_self k hk⟩

/-- The keys of the operations to come stay free. -/
theorem fresh_of_kept {u : String} {w w' : World} {op : Operation} {ops : List Operation}
    (h : Fresh w (op :: ops)) (hkept : Kept u op.key w w') : Fresh w' ops where
  new later hlater k hk hmem := by
    rcases hkept.keys k hmem with hold | hkey
    · exact h.new later (List.mem_cons_of_mem _ hlater) k hk hold
    · exact (List.pairwise_cons.mp h.distinct).1 later hlater k hkey hk
  distinct := (List.pairwise_cons.mp h.distinct).2

variable {tenant : String} {op : Operation} {ops : List Operation} {s t : World}

/-- An operation of the tenant answers alike on both sides, and leaves them alike. -/
theorem step_visible (inet : String → Option String) (hvisible : op.under tenant = true)
    (h : SameTo tenant (op :: ops) s t) :
    (op.step inet s).1 = (op.step inet t).1 ∧
      SameTo tenant ops (op.step inet s).2 (op.step inet t).2 := by
  have hu : tenantOf op.ctx = some tenant := of_decide_eq_true hvisible
  have halike : Alike tenant op.key s t s t :=
    ⟨h.own, kept_refl _ _ h.normal.1, kept_refl _ _ h.normal.2⟩
  obtain ⟨hanswer, hafter⟩ := (execute_agree hu h.users h.definitions h.slugs inet).stores
    ⟨halike, newKey_of_fresh h.fresh.1, newKey_of_fresh h.fresh.2⟩
  refine ⟨hanswer, hafter.own, ?_, ?_, ?_, ⟨hafter.left.normal, hafter.right.normal⟩,
    fresh_of_kept h.fresh.1 hafter.left, fresh_of_kept h.fresh.2 hafter.right⟩
  · exact hafter.left.users.trans (h.users.trans hafter.right.users.symm)
  · exact hafter.left.definitions.trans (h.definitions.trans hafter.right.definitions.symm)
  · exact hafter.left.slugs.trans (h.slugs.trans hafter.right.slugs.symm)

/-- What is kept of one database looks the same as the other, if the tenant's
own rows do. -/
theorem sameTo_of_kept {u : String} {s' : World} (h : SameTo tenant (op :: ops) s t)
    (hkept : Kept u op.key s s') (hown : s'.own tenant = s.own tenant) :
    SameTo tenant ops s' t where
  own := hown.trans h.own
  users := hkept.users.trans h.users
  definitions := hkept.definitions.trans h.definitions
  slugs := hkept.slugs.trans h.slugs
  normal := ⟨hkept.normal, h.normal.2⟩
  fresh := by
    refine ⟨fresh_of_kept h.fresh.1 hkept, ⟨?_, (List.pairwise_cons.mp h.fresh.2.distinct).2⟩⟩
    exact fun later hlater => h.fresh.2.new later (List.mem_cons_of_mem _ hlater)

/-- An operation of somebody else, or of nobody. -/
theorem step_invisible (inet : String → Option String) (hinvisible : op.under tenant = false)
    (h : SameTo tenant (op :: ops) s t) : SameTo tenant ops (op.step inet s).2 t := by
  cases hctx : Js.truthy op.ctx with
  | none =>
      obtain ⟨e, hrun⟩ := execute_rejects inet hctx
      rw [Operation.step, hrun s]
      exact sameTo_of_kept h ((kept_refl tenant op.key h.normal.1).noting op.ctx) rfl
  | some tenantId =>
      have hu : tenantOf op.ctx = some ((Pg.uuid tenantId).getD tenantId) := by
        rw [tenantOf, hctx, Option.map_some]
      have hne : (Pg.uuid tenantId).getD tenantId ≠ tenant := by
        intro hsame
        rw [Operation.under, hu, hsame] at hinvisible
        simp at hinvisible
      have halike : Alike ((Pg.uuid tenantId).getD tenantId) op.key s s s s :=
        ⟨rfl, kept_refl _ _ h.normal.1, kept_refl _ _ h.normal.1⟩
      have hnew := newKey_of_fresh h.fresh.1
      obtain ⟨-, hafter⟩ := (execute_agree hu rfl rfl rfl inet).stores ⟨halike, hnew, hnew⟩
      exact sameTo_of_kept h hafter.left (hafter.left.others _ (decide_eq_false hne))

/-- **Noninterference**: whatever the other tenants do, a tenant gets the same
answers and is left with the same rows; and an operation without a tenant fails
in one way whatever the rows are, and leaves them. -/
theorem tenant_noninterference (inet : String → Option String) (tenant : String) (w : World)
    (ops : List Operation) (hnormal : w.Normal) (hfresh : Fresh w ops) :
    observe (Operation.step inet) (Operation.under tenant) w ops =
        observe (Operation.step inet) (Operation.under tenant) w
          (ops.filter (Operation.under tenant)) ∧
      (final (Operation.step inet) w ops).own tenant =
        (final (Operation.step inet) w (ops.filter (Operation.under tenant))).own tenant ∧
      ∀ op : Operation, Js.truthy op.ctx = none →
        ∃ e, ∀ w, op.step inet w = (.error e, w.noting op.ctx) := by
  have hsame : SameTo tenant ops w w :=
    ⟨rfl, rfl, rfl, rfl, ⟨hnormal, hnormal⟩, hfresh, hfresh⟩
  have hpurge := @purge _ _ _ (Operation.step inet) (Operation.under tenant) (SameTo tenant)
    (fun _ _ _ _ => step_visible inet) (fun _ _ _ _ => step_invisible inet) ops w w hsame
  exact ⟨hpurge.1, hpurge.2.own, fun _ h => execute_rejects inet h⟩

/-- Tenant 3 cancels its execution and looks at it, while tenant 1 suspends its
organization and records that. -/
def sampleOperations : List Operation :=
  let rt (n : Fin 16) : Runtime := { sampleRuntime with generateId := Pg.uuidOf n }
  [⟨some (Pg.uuidOf 1), rt 12, .ok (), .suspendOrganization sampleSuspension⟩,
    ⟨some (Pg.uuidOf 3), rt 13, .ok (), .cancelWorkflowExecution
      ⟨Pg.uuidOf 5, some "unpaid", Pg.uuidOf 3, Pg.uuidOf 11, none⟩⟩,
    ⟨some (Pg.uuidOf 1), rt 14, .error (.error "ECONNREFUSED"), .recordAuditEvent
      ⟨Pg.uuidOf 1, Pg.uuidOf 11, none, .system, "organization.suspended", "organization",
        Pg.uuidOf 1, .success, [], none, none⟩⟩,
    ⟨some (Pg.uuidOf 3), rt 15, .ok (), .getWorkflowExecution
      ⟨Pg.uuidOf 3, Pg.uuidOf 11, Pg.uuidOf 5⟩⟩]

theorem sampleWorkflows_normal : sampleWorkflows.Normal where
  slugs := by
    intro s hs
    obtain rfl := List.mem_singleton.mp hs
    exact ⟨by decide +kernel, ⟨"acme", by decide +kernel⟩, rfl⟩
  executions := by decide +kernel

theorem tenant_noninterference_sample :
    observe (Operation.step fun _ => none) (Operation.under (Pg.uuidOf 3)) sampleWorkflows
        sampleOperations =
      observe (Operation.step fun _ => none) (Operation.under (Pg.uuidOf 3)) sampleWorkflows
        (sampleOperations.filter (Operation.under (Pg.uuidOf 3))) :=
  (tenant_noninterference (fun _ => none) (Pg.uuidOf 3) sampleWorkflows sampleOperations
    sampleWorkflows_normal ⟨by decide +kernel, by decide +kernel⟩).1

/-- The tenant's operations are two of the four. -/
example : (sampleOperations.filter (Operation.under (Pg.uuidOf 3))).length = 2 := by
  decide +kernel

end Atlas
