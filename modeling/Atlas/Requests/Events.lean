import Atlas.Lib.Protocol
import Atlas.PlatformEvents.Backbone
import Atlas.Requests.Failures

/-!
# Atlas.Requests.Events

Which events the jobs publish, and when.

A job publishes one event at most, and hands it to the outbox at most once,
after the inner bus has accepted it (`Progress.Move`).  One that answers for a
row it has written has published the event of that row.
-/

namespace Atlas

open StoreKit StoreKit.Program TenantAwareRepository

/-! ## The protocol -/

/- A job is followed through its steps with a `Progress` that says how far its event has
come.  `Announcing` is the rule system: `silent` serves every step that leaves the
backbone alone, `publish` the only two steps that do not, and `lift` and `branch` put them
together. -/

/-- How far a job is with its event. -/
inductive Progress where
  | quiet
  /-- The inner bus has accepted it. -/
  | accepted (event : TenantAwareEvent)
  /-- It was handed to the outbox. -/
  | written (event : TenantAwareEvent)

/-- Where events go, and what the names in them are read from. -/
def World.backbone (w : World) : List TenantAwareEvent × OutboxTable × WorkflowDefinitionTable :=
  (w.published, w.outboxEntries, w.workflowDefinitions)

/-- What the backbone is made of stays with it. -/
theorem World.kept_of_backbone {w w' : World} (h : w'.backbone = w.backbone) :
    w'.published = w.published ∧ w'.outboxEntries = w.outboxEntries ∧
      w'.workflowDefinitions = w.workflowDefinitions := by
  simpa only [World.backbone, Prod.mk.injEq] using h

/-- The names of the definitions are ones that a `text` column holds. -/
def World.Named (w : World) : Prop :=
  ∀ row ∈ w.workflowDefinitions.rows, Pg.text row.name = some row.name

/-- A step of a job that publishes an event of `Ev`. -/
inductive Progress.Move (bus : EventBus) (Ev : TenantAwareEvent → Prop) :
    Progress → World → Progress → World → Prop where
  | silent {c : Progress} {w w' : World} (h : w'.backbone = w.backbone) : Move bus Ev c w c w'
  | accepts {event : TenantAwareEvent} {w : World} (h : Ev event) :
      Move bus Ev .quiet w (.accepted event) { w with published := w.published ++ [event] }
  | writes {event : TenantAwareEvent} {w : World} :
      Move bus Ev (.accepted event) w (.written event)
        { w with
          outboxEntries := ForwardingEventBus.entryWritten bus.otherDates w.outboxEntries
            ⟨event, bus.attempt⟩ }

/-- Where an event has come to once it is published. -/
def EventBus.progress (bus : EventBus) (event : TenantAwareEvent) : Progress :=
  if bus.forwardingEnabled then .written event else .accepted event

/-- An event with an id was published. -/
def Announced (bus : EventBus) (Ev : TenantAwareEvent → Prop) (eventId : String)
    (c : Progress) : Prop :=
  ∃ event, Ev event ∧ event.eventId = eventId ∧ c = bus.progress event

/-- What is said of a handler that answers. -/
def IfAnswered {α : Type} (Q : α → Progress → Prop) (c : Progress) : Except Exception α → Prop
  | .ok a => Q a c
  | .error _ => True

/-- A handler that keeps to the protocol from `c` on, and ends in `Q`. -/
abbrev Announcing (bus : EventBus) (Ev : TenantAwareEvent → Prop) {α : Type}
    (Q : α → Progress → Prop) (t : Handler α) (c : Progress) : Prop :=
  t.Follows World.Named (Progress.Move bus Ev) (IfAnswered Q) c

namespace Announcing

variable {bus : EventBus} {Ev : TenantAwareEvent → Prop} {α β : Type} {Q : α → Progress → Prop}
  {c : Progress}

/-- A step that publishes nothing. -/
theorem silent {m : App β} {f : β → Handler α} (hm : Leaves World.backbone m)
    (hf : ∀ b w w', w.Named → m.run w = (.ok b, w') → Announcing bus Ev Q (f b) c) :
    Announcing bus Ev Q (Thread.call m >>= f) c := by
  rw [Thread.call_bind]
  refine .await fun w hw => ?_
  have hkept := hm.part_eq w
  cases hrun : m.run w with
  | mk r w' =>
      rw [hrun] at hkept
      cases r with
      | error e => exact .inl ⟨e, w', c, rfl, .silent hkept, trivial⟩
      | ok b => exact .inr ⟨b, w', c, rfl, .silent hkept, hf b w w' hw hrun⟩

/-- A query announces nothing. -/
theorem read {m : App β} {f : β → Handler α} (hm : Reads m)
    (hf : ∀ b, Announcing bus Ev Q (f b) c) : Announcing bus Ev Q (Thread.call m >>= f) c :=
  silent (hm.part World.backbone) fun b _ _ _ _ => hf b

/-- A thread that only reads ends with nothing announced. -/
theorem program {m : App α} (hm : Reads m) (hQ : ∀ a, Q a c) :
    Announcing bus Ev Q (Thread.call m) c := by
  have hlast : Announcing bus Ev Q (Thread.call m >>= pure) c := read hm fun a => .pure (hQ a)
  rwa [Thread.call_bind] at hlast

/-- An exception announces nothing. -/
theorem lift {x : Except Exception β} {f : β → Handler α}
    (hf : ∀ b, x = .ok b → Announcing bus Ev Q (f b) c) :
    Announcing bus Ev Q (Thread.lift x >>= f) c := by
  cases x with
  | ok b => exact hf b rfl
  | error e => exact Thread.Follows.lift (x := .error e) trivial

/-- A branch announces what its two sides do. -/
theorem branch {p : Prop} [Decidable p] {t u : Handler α} (ht : Announcing bus Ev Q t c)
    (hu : Announcing bus Ev Q u c) : Announcing bus Ev Q (if p then t else u) c := by
  split
  · exact ht
  · exact hu

end Announcing

/-! ## Handlers -/

/- The saves leave the backbone alone, so a handler is `silent` up to its publish.  What
is published is then compared with the row that was saved just before: the id, the tenant
and the columns of the entry come from it. -/

namespace Announcing

section Handlers

variable {bus : EventBus} {Ev : TenantAwareEvent → Prop} (rt : Runtime)

/-- A publish announces its event as far as the bus gets. -/
theorem publish {event : TenantAwareEvent} (hevent : Ev event) :
    Announcing bus Ev (fun _ c => c = bus.progress event) (bus.steps event) .quiet := by
  have hinner : ∀ w, (∃ e, (ForwardingEventBus.innerPublish bus.inner [event]).run w =
        (.error e, w)) ∨
      (ForwardingEventBus.innerPublish bus.inner [event]).run w =
        (.ok (), { w with published := w.published ++ [event] }) := by
    intro w
    cases hanswer : bus.inner with
    | error e => exact .inl ⟨e, rfl⟩
    | ok u => exact .inr rfl
  unfold EventBus.steps EventBus.progress
  split
  · rw [Thread.call_bind]
    refine .await fun w _ => ?_
    rcases hinner w with ⟨e, hrefused⟩ | haccepted
    · exact .inl ⟨e, w, .quiet, hrefused, .silent rfl, trivial⟩
    · exact .inr ⟨(), _, .accepted event, haccepted, .accepts hevent,
        .await fun w' _ => .inr ⟨(), _, .written event, rfl, .writes, .pure rfl⟩⟩
  · refine .await fun w _ => ?_
    rcases hinner w with ⟨e, hrefused⟩ | haccepted
    · exact .inl ⟨e, w, .quiet, hrefused, .silent rfl, trivial⟩
    · exact .inr ⟨(), _, .accepted event, haccepted, .accepts hevent, .pure rfl⟩

/-- An answer that is given once its event is published. -/
theorem published {α : Type} {Q : α → Progress → Prop} {event : TenantAwareEvent} {a : α}
    (hevent : Ev event) (ha : Q a (bus.progress event)) :
    Announcing bus Ev Q (bus.steps event >>= fun _ => pure a) .quiet :=
  (publish hevent).bind (fun _ _ hc => .pure (hc ▸ ha)) fun _ _ _ => trivial

/-- What an organization is loaded with is no event to publish. -/
theorem publishNone {α : Type} {Q : α → Progress → Prop} {orm : OrganizationOrmEntity}
    {saved : OrganizationAggregate} {eventType : String} {a : α} {c : Progress}
    (hsaved : OrganizationMapper.toDomain orm = .ok saved) (ha : Q a c) :
    Announcing bus Ev Q
      (publishAllSteps bus.steps eventType saved.domainEvents >>= fun _ => pure a) c := by
  rw [OrganizationMapper.domainEvents_toDomain hsaved]
  exact .pure ha

/-- Saving a user leaves the backbone alone. -/
theorem leaves_saveUser (savedAt : Js.Date) (user : UserAggregate) :
    Leaves World.backbone (UserRepository.save savedAt user) := by
  refine .of_part_eq fun w => ?_
  rcases UserRepository.save_cases savedAt user w with ⟨e, hsave⟩ | ⟨row, hsave, -⟩
  · rw [hsave]
  · rw [hsave]
    rfl

/-- Saving an execution leaves the backbone alone. -/
theorem leaves_saveExecution (ctx : Option String) (execution : WorkflowExecutionEntity) :
    Leaves World.backbone (WorkflowExecutionRepository.save ctx rt execution) := by
  refine .of_part_eq fun w => ?_
  rcases WorkflowExecutionRepository.save_cases ctx rt execution w with
    ⟨e, hsave⟩ | ⟨createdAt, row, hsave, -⟩
  · rw [hsave]
    rfl
  · rw [hsave]
    rfl

/-- Creating an organization leaves the backbone alone. -/
theorem leaves_provision (savedAt : Js.Date) (org : OrganizationAggregate) :
    Leaves World.backbone (OrganizationRepository.provision savedAt org) := by
  refine .bind (.of_part_eq fun w => ?_) fun _ => .lift _
  rw [OrganizationRepository.saveOrm_run]
  split
  · rfl
  · rfl

/-- Saving an organization leaves the backbone alone. -/
theorem leaves_saveOrganization (ctx : Option String) (savedAt : Js.Date)
    (org : OrganizationAggregate) :
    Leaves World.backbone (OrganizationRepository.save ctx savedAt org) :=
  .bind (leaves_guardTenant (fun _ _ => rfl) _ _ _ _) fun _ => leaves_provision savedAt org

/-- A registration announces the user it answers. -/
theorem register (bcryptHash : String → String) (command : RegisterUserCommand)
    (hevent : ∀ user, Ev (userRegistered rt command user)) :
    Announcing bus Ev (fun r c => ∀ result, r = .ok result → Announced bus Ev result.userId c)
      (RegisterUserHandler.steps bus.steps bcryptHash rt command) .quiet := by
  unfold RegisterUserHandler.steps
  refine read (reads_existsByEmail command.email) fun emailExists => branch (.pure nofun) ?_
  refine lift fun user _ => silent (leaves_saveUser rt.savedAt user) fun saved _ _ _ _ => ?_
  refine published (hevent saved) fun result hresult => ?_
  cases hresult
  exact ⟨_, hevent saved, rfl, rfl⟩

/-- A login announces nothing. -/
theorem login {Token : Type} (bcryptCompare : String → String → Bool)
    (sign : JwtPayload → String → Token) (ties : Typeorm.Arrangement OrganizationOrmEntity)
    (command : AuthenticateCommand) :
    Announcing bus Ev (fun _ _ => True)
      (AuthenticateHandler.steps bcryptCompare sign ties rt command) .quiet := by
  unfold AuthenticateHandler.steps
  refine read (reads_findByEmail command.email) fun found => ?_
  cases found with
  | none => exact .pure trivial
  | some user =>
      refine branch (.pure trivial) (branch (.pure trivial) ?_)
      refine read (reads_resolveOrganization ties _ _) fun organization => ?_
      cases organization with
      | none => exact .pure trivial
      | some organization =>
          exact branch (.pure trivial) (branch (.pure trivial)
            (silent (leaves_saveUser _ _) fun _ _ _ _ _ => .pure trivial))

/-- A creation announces nothing: what it saved carries no events any more. -/
theorem create (command : CreateOrganizationCommand) :
    Announcing bus Ev (fun _ _ => True)
      (CreateOrganizationHandler.steps bus.steps rt command) .quiet := by
  unfold CreateOrganizationHandler.steps
  refine read (reads_existsBySlug command.slug) fun slugExists => branch (.pure trivial) ?_
  refine lift fun org _ => silent (leaves_provision rt.savedAt org) fun saved _ _ _ hsave => ?_
  obtain ⟨table, -, hsaved⟩ := OrganizationRepository.provision_ok hsave
  exact publishNone hsaved trivial

/-- An update announces nothing. -/
theorem update (ctx : Option String) (command : UpdateOrganizationCommand) :
    Announcing bus Ev (fun _ _ => True) (UpdateOrganizationHandler.steps ctx rt command)
      .quiet := by
  unfold UpdateOrganizationHandler.steps
  refine read (reads_findOrganization ctx command.organizationId) fun found => ?_
  cases found with
  | none => exact .pure trivial
  | some org =>
      exact lift fun org' _ => silent (leaves_saveOrganization ctx rt.savedAt org')
        fun _ _ _ _ _ => .pure trivial

/-- A suspension announces nothing. -/
theorem suspend (ctx : Option String) (command : SuspendOrganizationCommand) :
    Announcing bus Ev (fun _ _ => True)
      (SuspendOrganizationHandler.steps bus.steps ctx rt command) .quiet := by
  unfold SuspendOrganizationHandler.steps
  refine read (reads_findOrganization ctx command.organizationId) fun found => ?_
  cases found with
  | none => exact .pure trivial
  | some org =>
      refine lift fun org' _ => silent (leaves_saveOrganization ctx rt.savedAt org')
        fun saved _ _ _ hsave => ?_
      obtain ⟨-, table, -, -, hsaved⟩ := OrganizationRepository.save_ok hsave
      exact publishNone hsaved trivial

/-- A cancellation announces nothing. -/
theorem cancel (ctx : Option String) (command : CancelWorkflowExecutionCommand) :
    Announcing bus Ev (fun _ _ => True) (CancelWorkflowExecutionHandler.steps ctx rt command)
      .quiet := by
  unfold CancelWorkflowExecutionHandler.steps
  refine read (reads_findExecution ctx rt.loadedAt command.executionId) fun found => ?_
  cases found with
  | none => exact .pure trivial
  | some execution =>
      exact lift fun cancelled _ => silent (leaves_saveExecution rt ctx cancelled)
        fun _ _ _ _ _ => .pure trivial

/-- The event of a trigger fits the outbox: its values come from the row of the
execution, and from the name of the definition. -/
theorem trigger (ctx : Option String) (command : TriggerWorkflowCommand)
    (hevent : ∀ definition saved, saved.tenantId = command.tenantId →
      FitsColumns (workflowTriggered rt.occurredAt command definition saved) →
      Ev (workflowTriggered rt.occurredAt command definition saved)) :
    Announcing bus Ev
      (fun r c => ∀ result, r = .ok result → Announced bus Ev result.executionId c)
      (TriggerWorkflowHandler.steps bus.steps ctx rt command) .quiet := by
  unfold TriggerWorkflowHandler.steps
  refine silent ((reads_findDefinition ctx rt.loadedAt command.definitionId).part World.backbone)
    fun found w _ hnamed hfind => ?_
  cases found with
  | none => exact .pure nofun
  | some definition =>
      refine branch (.pure nofun) ?_
      have hname : Pg.text definition.name = some definition.name := by
        rcases WorkflowDefinitionRepository.findById_cases ctx rt.loadedAt command.definitionId w
          with ⟨e, hfound⟩ | ⟨tenant, t, k, -, -, -, hfound⟩
        · rw [hfound] at hfind
          cases hfind
        · rw [hfound] at hfind
          obtain ⟨row, hrow, rfl⟩ := Option.map_eq_some_iff.mp
            (Except.ok.inj (congrArg Prod.fst hfind))
          exact hnamed row (List.mem_of_find?_eq_some hrow)
      refine silent (leaves_saveExecution rt ctx _) fun saved w' _ _ hsave => ?_
      rcases WorkflowExecutionRepository.save_cases ctx rt _ w' with
        ⟨e, hsaved⟩ | ⟨createdAt, row, hsaved, -, -, -, hwrites⟩
      · rw [hsaved] at hsave
        cases hsave
      · rw [hsaved] at hsave
        cases hsave
        obtain ⟨stored, hstored, -⟩ := hwrites.merged
        have hfits : FitsColumns (workflowTriggered rt.occurredAt command definition
            (WorkflowExecutionRepository.toDomain rt.loadedAt
              (WorkflowExecutionRepository.table.dated (some rt.savedAt) (some rt.savedAt)
                (WorkflowExecutionRepository.toOrm (.create rt.generateId rt.now
                  definition.definitionId command.tenantId command.correlationId
                  (command.actorId.getD "system") command.triggerType command.input))))) :=
          fitsColumns_workflowTriggered hstored hname rfl rfl
        have hpublished := hevent definition _ rfl hfits
        refine published hpublished fun result hresult => ?_
        cases hresult
        exact ⟨_, hpublished, rfl, rfl⟩

/-- An audit record announces the event it answers. -/
theorem record (inet : String → Option String) (ctx : Option String)
    (command : RecordAuditEventCommand)
    (hevent : FitsColumns (auditEventRecorded (.create rt.generateId rt.occurredAt command)) →
      Ev (auditEventRecorded (.create rt.generateId rt.occurredAt command))) :
    Announcing bus Ev (fun r c => ∀ id, r = .ok id → Announced bus Ev id c)
      (RecordAuditEventHandler.steps bus.steps inet ctx rt command) .quiet := by
  unfold RecordAuditEventHandler.steps
  have hleaves : Leaves World.backbone (AuditEventRepository.append inet ctx
      (.create rt.generateId rt.occurredAt command)) := by
    refine .of_part_eq fun w => ?_
    rcases AuditEventRepository.append_cases inet ctx
      (.create rt.generateId rt.occurredAt command) w with ⟨e, happend⟩ | ⟨row, table, happend, -⟩
    · rw [happend]
      rfl
    · rw [happend]
      rfl
  refine silent hleaves fun saved w _ _ happended => ?_
  rcases AuditEventRepository.append_cases inet ctx
    (.create rt.generateId rt.occurredAt command) w with
    ⟨e, happend⟩ | ⟨row, table, happend, -, -, -, hstored⟩
  · rw [happend] at happended
    cases happended
  · rw [happend] at happended
    cases happended
    have hfits := hevent (fitsColumns_auditEventRecorded hstored)
    refine published hfits fun id hid => ?_
    cases hid
    exact ⟨_, hfits, rfl, rfl⟩

end Handlers

/-! ### Methods -/

section Methods

variable {bus : EventBus} {Ev : TenantAwareEvent → Prop} {α β : Type} {Q : α → Progress → Prop}

/-- What is announced for a value is announced for the answer. -/
theorem valueOrThrow {t : Handler (Result α)} {c : Progress}
    (h : Announcing bus Ev (fun r c => ∀ a, r = .ok a → Q a c) t c) :
    Announcing bus Ev Q (valueOrThrowSteps t) c :=
  h.bind (fun c result hresult => Thread.Follows.lift (by
    cases result with
    | ok a => exact hresult a rfl
    | error e => trivial)) fun _ _ _ => trivial

/-- A method announces what its command does, as long as nothing is said of the answer. -/
theorem method {t : Handler (Result α)} {c : Progress}
    (h : Announcing bus Ev (fun _ _ => True) t c) :
    Announcing bus Ev (fun _ _ => True) (valueOrThrowSteps t) c :=
  valueOrThrow (h.weaken fun _ r _ => by
    cases r with
    | ok result => exact fun _ _ => trivial
    | error e => trivial)

/-- What becomes of the answer is not announced. -/
theorem map {f : α → β} {P : β → Progress → Prop} {t : Handler α} {c : Progress}
    (h : Announcing bus Ev Q t c) (hP : ∀ a c, Q a c → P (f a) c) :
    Announcing bus Ev P (f <$> t) c :=
  Thread.Follows.map h (fun c a ha => hP a c ha) fun _ _ _ => trivial

/-- Resolving the tenant of the request announces nothing. -/
theorem resolved {headers : Headers} {user : JwtPayload} {execute : String → Handler (Result α)}
    {c : Progress} (h : ∀ tenantId, Announcing bus Ev (fun _ _ => True) (execute tenantId) c) :
    Announcing bus Ev (fun _ _ => True) (Thread.call (TenantId.resolve headers user) >>=
      fun tenantId => valueOrThrowSteps (execute tenantId)) c :=
  read (.bind (.modify fun _ => rfl) fun _ => .pure _) fun tenantId => method (h tenantId)

/-- The metrics announce nothing. -/
theorem metrics (server : Server) (ctx : Option TenantContext) {c : Progress} :
    Announcing bus Ev (fun _ _ => True) (DashboardController.metricsSteps server ctx) c :=
  read (reads_query ctx) fun _ => read (reads_tenantId ctx) fun _ =>
    read (reads_getCount _ _ _ _ _) fun _ => read (reads_getCount _ _ _ _ _) fun _ =>
    read (reads_getCount _ _ _ _ _) fun _ => read (reads_getCount _ _ _ _ _) fun _ =>
    read (.gets _) fun _ => read (reads_getCount _ _ _ _ _) fun _ =>
    read (reads_getCount _ _ _ _ _) fun _ => .pure trivial

/-- The series of events announces nothing. -/
theorem eventSeries (server : Server) (ctx : Option TenantContext) {c : Progress} :
    Announcing bus Ev (fun _ _ => True) (DashboardController.eventSeriesSteps server ctx) c :=
  read (reads_query ctx) fun _ => read (reads_tenantId ctx) fun _ =>
    read (reads_daysOf _ _ _ _ _ _ _ _) fun _ => read (reads_daysOf _ _ _ _ _ _ _ _) fun _ =>
    .pure trivial

end Methods

/-! ### Requests -/

section Requests

variable {Token : Type} (api : ApiServer Token) {Ev : TenantAwareEvent → Prop}

/-- No route behind the guards announces anything. -/
theorem guarded (headers : Headers) (ctx : Option TenantContext) (user : JwtPayload)
    (route : Route) :
    Announcing api.eventBus Ev (fun _ _ => True) (api.guardedSteps headers ctx user route)
      .quiet := by
  cases route with
  | createOrganization body => exact map (method (create api.rt _)) fun _ _ h => h
  | updateOrganization id body => exact map (resolved fun _ => update api.rt _ _) fun _ _ h => h
  | suspendOrganization id body => exact map (resolved fun _ => suspend api.rt _ _) fun _ _ h => h
  | cancelExecution id body => exact map (resolved fun _ => cancel api.rt _ _) fun _ _ h => h
  | metrics => exact map (metrics api.toServer ctx) fun _ _ h => h
  | eventSeries => exact map (eventSeries api.toServer ctx) fun _ _ h => h
  | getOrganization id =>
      have hreads : Reads (Atlas.dispatch api.toServer headers ctx user (.getOrganization id)) :=
        .bind (reads_resolved fun _ => .pure _) fun _ => .pure _
      exact program hreads fun _ => trivial
  | listExecutions params =>
      exact program (reads_map _ (reads_listExecutions _ _ _ _ params)) fun _ => trivial
  | getExecution id =>
      exact program (reads_map _ (reads_getExecution _ _ _ _ id)) fun _ => trivial
  | getAuditEvents params =>
      exact program (reads_map _ (AuditEventRepository.leaves_query (fun _ _ => rfl) _ _ _ _))
        fun _ => trivial
  | getAuditEvent id =>
      exact program (reads_map _ (AuditEventRepository.leaves_findById (fun _ _ => rfl) _ _))
        fun _ => trivial

end Requests

end Announcing

/-! ## Jobs -/

/- `Job.announcing` collects the handlers, one case per job.  It is what the modules on
the outbox use, and they look at no handler again. -/

section Jobs

variable {Token : Type}

/-- The event is one that the job may publish. -/
def Job.Publishes (job : Job Token) (event : TenantAwareEvent) : Prop :=
  match job with
  | .serve api (.register _ body _) => ∃ user,
      event = userRegistered api.rt (IdentityController.registerCommand api body) user
  | .serve _ _ => False
  | .trigger _ _ rt command => ∃ definition saved,
      event = workflowTriggered rt.occurredAt command definition saved ∧
        saved.tenantId = command.tenantId ∧ FitsColumns event
  | .record _ _ _ rt command =>
      event = auditEventRecorded (.create rt.generateId rt.occurredAt command) ∧ FitsColumns event

/-- The id of the event that was published for an answer. -/
def JobAnswer.eventId? : JobAnswer Token → Option String
  | .response (.registered result) => some result.userId
  | .response _ => none
  | .triggered result => result.toOption.map TriggerWorkflowResult.executionId
  | .recorded result => result.toOption

/-- **What a job publishes**: one event at most, and where it answers for a row
it has written, the event of that row. -/
theorem Job.announcing (job : Job Token) :
    Announcing job.bus job.Publishes
      (fun answer c => ∀ id, answer.eventId? = some id → Announced job.bus job.Publishes id c)
      job.steps .quiet := by
  cases job with
  | serve api request =>
      unfold Job.steps ApiServer.steps
      refine Announcing.map (Q := fun response c => ∀ id,
        (JobAnswer.response response).eventId? = some id →
          Announced api.eventBus (Job.serve api request).Publishes id c) ?_ fun _ _ h => h
      refine Announcing.lift fun _ _ => Announcing.lift fun _ _ => ?_
      cases request with
      | register headers body invalid =>
          refine Announcing.map (Announcing.valueOrThrow
            (Announcing.register api.rt _ _ fun user => ⟨user, rfl⟩)) fun result c h id hid => ?_
          exact Option.some.inj hid ▸ h
      | login headers body invalid =>
          exact Announcing.map (Announcing.method (Announcing.login api.rt _ _ _ _))
            fun _ _ _ _ hid => by cases hid
      | guarded request =>
          exact Announcing.lift fun user _ =>
            Announcing.map (Announcing.guarded api _ _ user request.route)
              fun _ _ _ _ hid => by cases hid
  | trigger bus ctx rt command =>
      refine Announcing.map (Announcing.trigger rt ctx command
        fun definition saved htenant hfits => ⟨definition, saved, rfl, htenant, hfits⟩)
        fun result c h id hid => ?_
      cases result with
      | ok result => exact Option.some.inj hid ▸ h result rfl
      | error e => cases hid
  | record bus inet ctx rt command =>
      refine Announcing.map (Announcing.record rt inet ctx command fun hfits => ⟨rfl, hfits⟩)
        fun result c h id hid => ?_
      cases result with
      | ok auditEventId => exact Option.some.inj hid ▸ h auditEventId rfl
      | error e => cases hid

end Jobs

end Atlas
