import Atlas.Lib.Atomic
import Atlas.Requests.Interleaving

/-!
# Atlas.Requests.Failures

A request that fails has changed nothing.

Every handler writes at most once, and what it does after the write can only
fail in the event bus.  So if the bus accepts its event a job that answers with
an error has changed no table, whatever other requests did between its steps
and whatever it had read.
-/

namespace Atlas

open StoreKit StoreKit.Program

/-! ## Rules -/

/- The rules mirror the shape all handlers have: queries first, then at most one write,
and after the write nothing that can fail but a publish. -/

/-- A handler that changes a table only where it is certain to succeed. -/
abbrev Traceless {α : Type} (Q : Except Exception α → Prop) (t : Handler α) : Prop :=
  t.Atomic World.tables Q

section Rules

variable {α β : Type} {Q : Except Exception α → Prop}

/-- A query leaves no trace, whatever follows it. -/
theorem traceless_read {m : App β} {f : β → Handler α} (hm : Reads m)
    (hf : ∀ b, Traceless Q (f b)) : Traceless Q (Thread.call m >>= f) := by
  rw [Thread.call_bind]
  refine .await fun w => ?_
  have hpart := hm.tables.part_eq w
  cases hrun : m.run w with
  | mk r w' =>
      rw [hrun] at hpart
      cases r with
      | error e => exact .inl ⟨e, w', rfl, hpart⟩
      | ok b => exact .inr ⟨b, w', rfl, .inl ⟨hpart, hf b⟩⟩

/-- A write is refused, or succeeds and so does what follows. -/
theorem traceless_write {m : App β} {f : β → Handler α}
    (h : ∀ w, (∃ e w', m.run w = (.error e, w') ∧ w'.tables = w.tables) ∨
      ∃ b w', m.run w = (.ok b, w') ∧ (f b).Certain Q) : Traceless Q (Thread.call m >>= f) := by
  rw [Thread.call_bind]
  refine .await fun w => ?_
  rcases h w with hrefused | ⟨b, w', hrun, hcertain⟩
  · exact .inl hrefused
  · exact .inr ⟨b, w', hrun, .inr hcertain⟩

/-- A thread of one query leaves no trace. -/
theorem traceless_call {m : App α} (hm : Reads m) : Traceless Q (Thread.call m) := by
  refine .await fun w => ?_
  have hpart := hm.tables.part_eq w
  cases hrun : m.run w with
  | mk r w' =>
      rw [hrun] at hpart
      cases r with
      | error e => exact .inl ⟨e, w', rfl, hpart⟩
      | ok a => exact .inr ⟨a, w', rfl, .inl ⟨hpart, .pure⟩⟩

/-- An exception thrown here leaves none. -/
theorem traceless_lift {x : Except Exception β} {f : β → Handler α}
    (hf : ∀ b, x = .ok b → Traceless Q (f b)) : Traceless Q (Thread.lift x >>= f) := by
  cases x with
  | ok b => exact hf b rfl
  | error e => exact .reject

/-- A branch leaves none if neither side does. -/
theorem traceless_ite {c : Prop} [Decidable c] {t u : Handler α} (ht : Traceless Q t)
    (hu : Traceless Q u) : Traceless Q (if c then t else u) := by
  split
  · exact ht
  · exact hu

end Rules

/-! ## The event bus -/

/- Once the inner bus has accepted an event nothing fails any more: the write to the
outbox catches whatever goes wrong in it. -/

/-- The handler has not rejected. -/
def Answers {α : Type} (r : Except Exception α) : Prop := ∃ a, r = .ok a

/-- The handler has answered with a result that is no error. -/
def Succeeds {α : Type} (r : Except Exception (Result α)) : Prop := ∃ a, r = .ok (.ok a)

/-- A bus whose inner adapter accepts the event answers. -/
theorem certain_bus {bus : EventBus} (hbus : bus.inner = .ok ()) (event : TenantAwareEvent) :
    (bus.steps event).Certain Answers := by
  have hinner : ∀ w, ∃ w', (ForwardingEventBus.innerPublish bus.inner [event]).run w =
      (.ok (), w') := by
    intro w
    rw [hbus]
    exact ⟨_, rfl⟩
  unfold EventBus.steps
  split
  · rw [Thread.call_bind]
    refine .await fun w => ?_
    obtain ⟨w', hw'⟩ := hinner w
    exact .inr ⟨(), w', hw', .await fun w'' => .inr ⟨(), _, rfl, .pure ⟨(), rfl⟩⟩⟩
  · refine .await fun w => ?_
    obtain ⟨w', hw'⟩ := hinner w
    exact .inr ⟨(), w', hw', .pure ⟨(), rfl⟩⟩

/-- A bus whose inner adapter accepts every event answers for any number of them. -/
theorem certain_publishAll {bus : EventBus} (hbus : bus.inner = .ok ()) (eventType : String)
    (events : List DomainEvent) :
    (publishAllSteps bus.steps eventType events).Certain Answers := by
  induction events with
  | nil => exact .pure ⟨(), rfl⟩
  | cons event events ih =>
      exact (certain_bus hbus _).bind (fun _ _ => ih) fun e he => by
        obtain ⟨a, ha⟩ := he
        cases ha

/-- What was published is answered for. -/
theorem certain_published {α : Type} {Q : Except Exception α → Prop} {t : Handler Unit} {a : α}
    (ht : t.Certain Answers) (ha : Q (.ok a)) : (t >>= fun _ => pure a).Certain Q :=
  ht.bind (fun _ _ => .pure ha) fun e he => by
    obtain ⟨b, hb⟩ := he
    cases hb

/-! ## Handlers -/

section Handlers

variable {bus : EventBus} (rt : Runtime)

/-- A registration writes the user last, and announces it. -/
theorem traceless_register (hbus : bus.inner = .ok ()) (bcryptHash : String → String)
    (command : RegisterUserCommand) :
    Traceless Succeeds (RegisterUserHandler.steps bus.steps bcryptHash rt command) := by
  unfold RegisterUserHandler.steps
  refine traceless_read (reads_existsByEmail command.email) fun emailExists => ?_
  refine traceless_ite .pure (traceless_lift fun user _ => traceless_write fun w => ?_)
  rcases UserRepository.save_cases rt.savedAt user w with ⟨e, hsave⟩ | ⟨row, hsave, -⟩
  · exact .inl ⟨e, w, hsave, rfl⟩
  · exact .inr ⟨user, _, hsave, certain_published (certain_bus hbus _) ⟨_, rfl⟩⟩

/-- A login writes the date of the login last. -/
theorem traceless_login {Token : Type} (bcryptCompare : String → String → Bool)
    (sign : JwtPayload → String → Token) (ties : Typeorm.Arrangement OrganizationOrmEntity)
    (command : AuthenticateCommand) :
    Traceless Succeeds (AuthenticateHandler.steps bcryptCompare sign ties rt command) := by
  unfold AuthenticateHandler.steps
  refine traceless_read (reads_findByEmail command.email) fun found => ?_
  cases found with
  | none => exact .pure
  | some user =>
      refine traceless_ite .pure (traceless_ite .pure ?_)
      refine traceless_read (reads_resolveOrganization ties user.userId command.organizationSlug)
        fun organization => ?_
      cases organization with
      | none => exact .pure
      | some organization =>
          refine traceless_ite .pure (traceless_ite .pure (traceless_write fun w => ?_))
          rcases UserRepository.save_cases rt.savedAt (user.recordLogin rt.now) w with
            ⟨e, hsave⟩ | ⟨row, hsave, -⟩
          · exact .inl ⟨e, w, hsave, rfl⟩
          · exact .inr ⟨_, _, hsave, .pure ⟨_, rfl⟩⟩

/-- A row that is written is an organization: its slug is one. -/
theorem provision_cases (savedAt : Js.Date) (org : OrganizationAggregate) (w : World) :
    (∃ e, (OrganizationRepository.provision savedAt org).run w = (.error e, w)) ∨
      ∃ saved w', (OrganizationRepository.provision savedAt org).run w = (.ok saved, w') := by
  have hsave := OrganizationRepository.saveOrm_run savedAt (OrganizationMapper.toOrm org) w
  split at hsave
  · next table htable =>
      obtain ⟨saved, hsaved, -⟩ := OrganizationMapper.toDomain_of_slug
        { OrganizationMapper.toOrm org with updatedAt := savedAt } org.slug rfl
      refine .inr ⟨saved, { w with organizations := table }, ?_⟩
      rw [OrganizationRepository.provision, Program.bind_run_ok hsave, Program.lift_run, hsaved]
  · refine .inl ⟨.database, ?_⟩
    rw [OrganizationRepository.provision, Program.bind_run_error hsave]

/-- Saving an organization rejects before it writes, or writes and answers. -/
theorem saveOrganization_cases (ctx : Option String) (savedAt : Js.Date)
    (org : OrganizationAggregate) (w : World) :
    (∃ e, (OrganizationRepository.save ctx savedAt org).run w = (.error e, w.noting ctx)) ∨
      ∃ saved w', (OrganizationRepository.save ctx savedAt org).run w = (.ok saved, w') := by
  rcases TenantAwareRepository.guardTenant_cases OrganizationRepository.name ctx
    org.organizationId _ (OrganizationRepository.provision savedAt org) w with
    hrejected | ⟨-, hrun⟩
  · exact .inl hrejected
  · rcases provision_cases savedAt org (w.noting ctx) with ⟨e, hsave⟩ | ⟨saved, w', hsave⟩
    · exact .inl ⟨e, hrun.trans hsave⟩
    · exact .inr ⟨saved, w', hrun.trans hsave⟩

/-- A creation writes the organization last, and announces it. -/
theorem traceless_create (hbus : bus.inner = .ok ()) (command : CreateOrganizationCommand) :
    Traceless Succeeds (CreateOrganizationHandler.steps bus.steps rt command) := by
  unfold CreateOrganizationHandler.steps
  refine traceless_read (reads_existsBySlug command.slug) fun slugExists => ?_
  refine traceless_ite .pure (traceless_lift fun org _ => traceless_write fun w => ?_)
  rcases provision_cases rt.savedAt org w with ⟨e, hsave⟩ | ⟨saved, w', hsave⟩
  · exact .inl ⟨e, w, hsave, rfl⟩
  · exact .inr ⟨saved, w', hsave, certain_published (certain_publishAll hbus _ _) ⟨_, rfl⟩⟩

/-- A suspension writes the organization last. -/
theorem traceless_suspend (hbus : bus.inner = .ok ()) (ctx : Option String)
    (command : SuspendOrganizationCommand) :
    Traceless Succeeds (SuspendOrganizationHandler.steps bus.steps ctx rt command) := by
  unfold SuspendOrganizationHandler.steps
  refine traceless_read (reads_findOrganization ctx command.organizationId) fun found => ?_
  cases found with
  | none => exact .pure
  | some org =>
      refine traceless_lift fun org' _ => traceless_write fun w => ?_
      rcases saveOrganization_cases ctx rt.savedAt org' w with ⟨e, hsave⟩ | ⟨saved, w', hsave⟩
      · exact .inl ⟨e, _, hsave, rfl⟩
      · exact .inr ⟨saved, w', hsave, certain_published (certain_publishAll hbus _ _) ⟨_, rfl⟩⟩

/-- An update writes the organization last. -/
theorem traceless_update (ctx : Option String) (command : UpdateOrganizationCommand) :
    Traceless Succeeds (UpdateOrganizationHandler.steps ctx rt command) := by
  unfold UpdateOrganizationHandler.steps
  refine traceless_read (reads_findOrganization ctx command.organizationId) fun found => ?_
  cases found with
  | none => exact .pure
  | some org =>
      refine traceless_lift fun org' _ => traceless_write fun w => ?_
      rcases saveOrganization_cases ctx rt.savedAt org' w with ⟨e, hsave⟩ | ⟨saved, w', hsave⟩
      · exact .inl ⟨e, _, hsave, rfl⟩
      · exact .inr ⟨saved, w', hsave, .pure ⟨_, rfl⟩⟩

/-- A trigger writes the execution last, and announces it. -/
theorem traceless_trigger (hbus : bus.inner = .ok ()) (ctx : Option String)
    (command : TriggerWorkflowCommand) :
    Traceless Succeeds (TriggerWorkflowHandler.steps bus.steps ctx rt command) := by
  unfold TriggerWorkflowHandler.steps
  refine traceless_read (reads_findDefinition ctx rt.loadedAt command.definitionId) fun found => ?_
  cases found with
  | none => exact .pure
  | some definition =>
      refine traceless_ite .pure (traceless_write fun w => ?_)
      rcases WorkflowExecutionRepository.save_cases ctx rt _ w with
        ⟨e, hsave⟩ | ⟨createdAt, row, hsave, -⟩
      · exact .inl ⟨e, _, hsave, rfl⟩
      · exact .inr ⟨_, _, hsave, certain_published (certain_bus hbus _) ⟨_, rfl⟩⟩

/-- A cancellation writes the execution last. -/
theorem traceless_cancel (ctx : Option String) (command : CancelWorkflowExecutionCommand) :
    Traceless Succeeds (CancelWorkflowExecutionHandler.steps ctx rt command) := by
  unfold CancelWorkflowExecutionHandler.steps
  refine traceless_read (reads_findExecution ctx rt.loadedAt command.executionId) fun found => ?_
  cases found with
  | none => exact .pure
  | some execution =>
      refine traceless_lift fun cancelled _ => traceless_write fun w => ?_
      rcases WorkflowExecutionRepository.save_cases ctx rt cancelled w with
        ⟨e, hsave⟩ | ⟨createdAt, row, hsave, -⟩
      · exact .inl ⟨e, _, hsave, rfl⟩
      · exact .inr ⟨_, _, hsave, .pure ⟨_, rfl⟩⟩

/-- An audit record is inserted last, and announced. -/
theorem traceless_record (hbus : bus.inner = .ok ()) (inet : String → Option String)
    (ctx : Option String) (command : RecordAuditEventCommand) :
    Traceless Succeeds (RecordAuditEventHandler.steps bus.steps inet ctx rt command) := by
  unfold RecordAuditEventHandler.steps
  refine traceless_write fun w => ?_
  rcases AuditEventRepository.append_cases inet ctx _ w with
    ⟨e, happend⟩ | ⟨row, table, happend, -⟩
  · exact .inl ⟨e, _, happend, rfl⟩
  · exact .inr ⟨_, _, happend, certain_published (certain_bus hbus _) ⟨_, rfl⟩⟩

end Handlers

/-! ## Requests -/

section Requests

variable {Token : Type} {api : ApiServer Token}

theorem traceless_map {α β : Type} {f : α → β} {t : Handler α} (h : Traceless Answers t) :
    Traceless Answers (f <$> t) := by
  refine h.bind (fun _ => .pure) (fun _ _ => .pure ⟨_, rfl⟩) fun e he => ?_
  obtain ⟨a, ha⟩ := he
  cases ha

/-- The error of a result is thrown after a command that changed nothing. -/
theorem traceless_valueOrThrow {α : Type} {t : Handler (Result α)} (h : Traceless Succeeds t) :
    Traceless Answers (valueOrThrowSteps t) := by
  refine h.bind (fun _ => .lift) (fun result hresult => ?_) fun e he => ?_
  · obtain ⟨a, ha⟩ := hresult
    cases ha
    exact .pure ⟨a, rfl⟩
  · obtain ⟨a, ha⟩ := he
    cases ha

/-- The tenant of a request is resolved before the command. -/
theorem traceless_resolved {α : Type} {headers : Headers} {user : JwtPayload}
    {execute : String → Handler (Result α)}
    (h : ∀ tenantId, Traceless Succeeds (execute tenantId)) :
    Traceless Answers (Thread.call (TenantId.resolve headers user) >>= fun tenantId =>
      valueOrThrowSteps (execute tenantId)) :=
  traceless_read (.bind (.modify fun _ => rfl) fun _ => .pure _) fun tenantId =>
    traceless_valueOrThrow (h tenantId)

theorem traceless_metrics (server : Server) (ctx : Option TenantContext) :
    Traceless Answers (DashboardController.metricsSteps server ctx) := by
  refine traceless_read (reads_query ctx) fun _ => traceless_read (reads_tenantId ctx) fun _ => ?_
  exact traceless_read (reads_getCount _ _ _ _ _) fun _ =>
    traceless_read (reads_getCount _ _ _ _ _) fun _ =>
    traceless_read (reads_getCount _ _ _ _ _) fun _ =>
    traceless_read (reads_getCount _ _ _ _ _) fun _ => traceless_read (.gets _) fun _ =>
    traceless_read (reads_getCount _ _ _ _ _) fun _ =>
    traceless_read (reads_getCount _ _ _ _ _) fun _ => .pure

theorem traceless_eventSeries (server : Server) (ctx : Option TenantContext) :
    Traceless Answers (DashboardController.eventSeriesSteps server ctx) := by
  refine traceless_read (reads_query ctx) fun _ => traceless_read (reads_tenantId ctx) fun _ => ?_
  exact traceless_read (reads_daysOf _ _ _ _ _ _ _ _) fun _ =>
    traceless_read (reads_daysOf _ _ _ _ _ _ _ _) fun _ => .pure

/-- The routes behind the guards leave no trace of an error. -/
theorem traceless_guarded (hbus : api.eventBus.inner = .ok ()) (headers : Headers)
    (ctx : Option TenantContext) (user : JwtPayload) (route : Route) :
    Traceless Answers (api.guardedSteps headers ctx user route) := by
  cases route with
  | createOrganization body =>
      exact traceless_map (traceless_valueOrThrow (traceless_create api.rt hbus _))
  | updateOrganization id body =>
      exact traceless_map (traceless_resolved fun _ => traceless_update api.rt _ _)
  | suspendOrganization id body =>
      exact traceless_map (traceless_resolved fun _ => traceless_suspend api.rt hbus _ _)
  | cancelExecution id body =>
      exact traceless_map (traceless_resolved fun _ => traceless_cancel api.rt _ _)
  | metrics => exact traceless_map (traceless_metrics api.toServer ctx)
  | eventSeries => exact traceless_map (traceless_eventSeries api.toServer ctx)
  | getOrganization id =>
      have hreads : Reads (Atlas.dispatch api.toServer headers ctx user (.getOrganization id)) :=
        .bind (reads_resolved fun _ => .pure _) fun _ => .pure _
      exact traceless_call hreads
  | listExecutions params =>
      exact traceless_call (reads_map _ (reads_listExecutions _ _ _ _ params))
  | getExecution id => exact traceless_call (reads_map _ (reads_getExecution _ _ _ _ id))
  | getAuditEvents params =>
      exact traceless_call (reads_map _
        (AuditEventRepository.leaves_query (fun _ _ => rfl) _ _ _ _))
  | getAuditEvent id =>
      exact traceless_call (reads_map _ (AuditEventRepository.leaves_findById (fun _ _ => rfl) _ _))

/-- An error of the API leaves no trace, on any route. -/
theorem ApiServer.traceless (hbus : api.eventBus.inner = .ok ()) (request : ApiRequest) :
    Traceless Answers (api.steps request) := by
  unfold ApiServer.steps
  refine traceless_lift fun _ _ => traceless_lift fun _ _ => ?_
  cases request with
  | register headers body invalid =>
      exact traceless_map (traceless_valueOrThrow (traceless_register api.rt hbus _ _))
  | login headers body invalid =>
      exact traceless_map (traceless_valueOrThrow (traceless_login api.rt _ _ _ _))
  | guarded request =>
      exact traceless_lift fun user _ =>
        traceless_map (traceless_guarded hbus _ _ user request.route)

/-! ## Jobs -/

/-- The bus the job publishes on. -/
def Job.bus : Job Token → EventBus
  | .serve api _ => api.eventBus
  | .trigger bus _ _ _ => bus
  | .record bus _ _ _ _ => bus

/-- The job is done: a response was sent, or its result is a success. -/
def JobAnswer.Done : Except Exception (JobAnswer Token) → Prop
  | .ok (.response _) => True
  | .ok (.triggered result) => ∃ a, result = .ok a
  | .ok (.recorded result) => ∃ a, result = .ok a
  | .error _ => False

/-- A result that is an error is one of the job. -/
theorem traceless_done {α : Type} {t : Handler (Result α)} (answer : Result α → JobAnswer Token)
    (h : Traceless Succeeds t) (hdone : ∀ a, JobAnswer.Done (.ok (answer (.ok a)))) :
    Traceless JobAnswer.Done (answer <$> t) := by
  refine h.bind (fun _ => .pure) (fun result hresult => ?_) fun e he => ?_
  · obtain ⟨a, ha⟩ := hresult
    cases ha
    exact .pure (hdone a)
  · obtain ⟨a, ha⟩ := he
    cases ha

/-- A job that ends with an error leaves no trace. -/
theorem Job.traceless {job : Job Token} (hbus : job.bus.inner = .ok ()) :
    Traceless JobAnswer.Done job.steps := by
  cases job with
  | serve api request =>
      refine (api.traceless hbus request).bind (fun _ => .pure) (fun _ _ => .pure trivial)
        fun e he => ?_
      obtain ⟨a, ha⟩ := he
      cases ha
  | trigger bus ctx rt command =>
      exact traceless_done .triggered (traceless_trigger rt hbus ctx command) fun a => ⟨a, rfl⟩
  | record bus inet ctx rt command =>
      exact traceless_done .recorded (traceless_record rt hbus inet ctx command) fun a => ⟨a, rfl⟩

/-- **An error leaves no trace**: a job whose event the bus accepts, and that
ends with an error, has changed no table with any of its steps, whatever the
database was and whatever others did between the steps. -/
theorem errors_leave_no_trace {ι : Type} [DecidableEq ι] {jobs : ι → Job Token} {w : World}
    {schedule : List ι} {s : Threads ι World Exception (JobAnswer Token)}
    (hrun : exec Threads.step (started jobs w) schedule = some s) {i : ι}
    (hbus : (jobs i).bus.inner = .ok ()) {ending : Except Exception (JobAnswer Token)}
    (hend : (s.thread i).end? = some ending) (hfailed : ¬ JobAnswer.Done ending) :
    ∀ before after m m', schedule = before ++ i :: after →
      exec Threads.step (started jobs w) before = some m → Threads.step m i = some m' →
        m.store.SameTables m'.store := by
  intro before after m m' hsplit hbefore hstep
  have htraceless : ((started jobs w).thread i).Atomic World.tables JobAnswer.Done :=
    Job.traceless hbus
  exact World.sameTables_of_tables (Threads.exec_atomic htraceless hrun hend hfailed before after
    m m' hsplit hbefore hstep)

/-- The second registration of the address is refused by the database. -/
theorem errors_leave_no_trace_sample : ∃ s,
    exec Threads.step (started sampleJobs sampleWorld) sampleSchedule = some s ∧
      (s.thread 1).end?.isSome = true ∧
      ∀ before after m m', sampleSchedule = before ++ 1 :: after →
        exec Threads.step (started sampleJobs sampleWorld) before = some m →
          Threads.step m 1 = some m' → m.store.SameTables m'.store := by
  have hshows : (exec Threads.step (started sampleJobs sampleWorld) sampleSchedule).any
      (fun s => (s.thread 1).end?.any fun ending => !ending.isOk) = true := by
    decide +kernel
  obtain ⟨s, hrun, hs⟩ := (Option.any_eq_true _ _).mp hshows
  obtain ⟨ending, hend, hfailed⟩ := (Option.any_eq_true _ _).mp hs
  have hbus : (sampleJobs 1).bus.inner = .ok () := rfl
  have hnot : ¬ JobAnswer.Done ending := by
    cases ending with
    | ok answer => cases hfailed
    | error e => exact id
  exact ⟨s, hrun, by rw [hend]; rfl, errors_leave_no_trace hrun hbus hend hnot⟩

end Requests

end Atlas
