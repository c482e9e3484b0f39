import Atlas.Http.TenantBinding

/-!
# Atlas.Http.Correlation

The correlation ids of a request.

The middleware, the interceptor and every command make up an id of their own
where they are not given one.  The first two look at the same header; a command
is given `user.correlationId`, which no token has.  Nothing is published while
a request is handled (`silent_dispatch`), so no event has an id.
-/

namespace Atlas

open StoreKit StoreKit.Program TenantAwareRepository

/-- `intercept`: the id of the response header and of `request.correlationId`;
`uuidv4` is the one made up for a request without a correlation id. -/
def CorrelationIdInterceptor.intercept (uuidv4 : String) (headers : Headers) : String :=
  headers.xCorrelationId.getD uuidv4

/-- The correlation ids of the commands that a route builds. -/
def Route.commands (server : Server) (headers : Headers) (user : JwtPayload) (route : Route) :
    List String :=
  let tenantId := headers.xTenantId.getD user.tenantId
  match route with
  | .createOrganization body =>
      [(TenantCoreController.createOrganizationCommand server user body).correlationId]
  | .updateOrganization id body =>
      [(TenantCoreController.updateOrganizationCommand server user id body tenantId).correlationId]
  | .suspendOrganization id body =>
      [(TenantCoreController.suspendOrganizationCommand server user id body tenantId).correlationId]
  | .cancelExecution id body =>
      [(WorkflowController.cancelExecutionCommand server user id body tenantId).correlationId]
  | _ => []

/-- The correlation ids that a request ends up with. -/
structure CorrelationIds where
  responseHeader : Option String
  request : Option String
  context : Option String
  commands : List String
deriving DecidableEq

/-- The middleware sets the response header with the context; behind the guards
the interceptor sets it again; behind the pipe the controller builds its
command. -/
def Server.correlationIds (server : Server) (request : Request) : CorrelationIds :=
  let context := (TenantContextMiddleware.use server.contextCorrelationId request.headers).map
    TenantContext.correlationId
  match request.authorize with
  | .error _ => { responseHeader := context, request := none, context, commands := [] }
  | .ok user =>
      let correlationId :=
        CorrelationIdInterceptor.intercept server.requestCorrelationId request.headers
      { responseHeader := some correlationId
        request := some correlationId
        context
        commands := match request.validate with
          | .ok () => request.route.commands server request.headers user
          | .error _ => [] }

/-- The events that are published while a request is handled. -/
def Server.events (server : Server) (request : Request) (w : World) : List TenantAwareEvent :=
  ((server.handle request).run w).2.published.drop w.published.length

/-! ## What is published -/

/- No request publishes: the two commands that loop over domain events hold an aggregate
that was built from the saved row, and such an aggregate has no events.  The rules are
those for `Asks`, with the events for the record. -/

section Silence

/-- A method that publishes nothing. -/
abbrev Silent {α : Type} (m : App α) : Prop := Leaves World.published m

/-- The guard of the root publishes nothing. -/
theorem silent_guardTenantRoot (name : String) (ctx : Option String) (id : String) :
    Silent (guardTenantRoot name ctx id) :=
  leaves_guardTenant (fun _ _ => rfl) _ _ _ _

/-- Looking up an organization publishes nothing. -/
theorem silent_findOrganization (ctx : Option String) (id : String) :
    Silent (OrganizationRepository.findById ctx id) := by
  refine .bind (silent_guardTenantRoot _ _ _) fun _ => .bind (leaves_uuidParameter id) fun _ =>
    .bind (.gets _) fun orm => ?_
  cases orm with
  | some orm => exact .bind (.lift _) fun _ => .pure _
  | none => exact .pure none

theorem silent_saveOrganizationOrm (savedAt : Js.Date) (orm : OrganizationOrmEntity) :
    Silent (OrganizationRepository.saveOrm savedAt orm) :=
  .bind (.gets _) fun _ => .bind (leaves_written _) fun _ => .bind (.modify fun _ => rfl) fun _ =>
    .pure _

/-- Saving an organization publishes nothing by itself. -/
theorem silent_saveOrganization (ctx : Option String) (savedAt : Js.Date)
    (org : OrganizationAggregate) : Silent (OrganizationRepository.save ctx savedAt org) :=
  .bind (silent_guardTenantRoot _ _ _) fun _ => .bind (silent_saveOrganizationOrm _ _) fun _ =>
    .lift _

/-- Creating an organization publishes nothing by itself. -/
theorem silent_provision (savedAt : Js.Date) (org : OrganizationAggregate) :
    Silent (OrganizationRepository.provision savedAt org) :=
  .bind (silent_saveOrganizationOrm _ _) fun _ => .lift _

/-- Looking up an execution publishes nothing. -/
theorem silent_findExecution (ctx : Option String) (loadedAt : Js.Date) (id : String) :
    Silent (WorkflowExecutionRepository.findById ctx loadedAt id) :=
  .bind (leaves_scopedWhere (fun _ _ => rfl) _ _ _) fun _ =>
    .bind (leaves_findOne _ _ _ _) fun _ => .pure _

/-- Saving an execution publishes nothing. -/
theorem silent_saveExecution (ctx : Option String) (rt : Runtime)
    (execution : WorkflowExecutionEntity) :
    Silent (WorkflowExecutionRepository.save ctx rt execution) :=
  .bind (leaves_guardTenant (fun _ _ => rfl) _ _ _ _) fun _ =>
    .bind (.bind (.gets _) fun _ => .bind (.gets _) fun _ => .bind (leaves_written _) fun _ =>
      .bind (.modify fun _ => rfl) fun _ => .pure _) fun _ => .pure _

/-- What the handler loops over is the events of an aggregate built from a row. -/
theorem silent_create (server : Server) (command : CreateOrganizationCommand) :
    Silent (CreateOrganizationHandler.execute server.publish server.rt command) := by
  refine .bind (.bind (leaves_written _) fun _ => .gets _) fun slugExists => ?_
  split
  · exact .pure _
  · refine .bind (.lift _) fun organization => .bind_answers (silent_provision _ _)
      (A := fun saved => saved.domainEvents = []) ?_ fun saved hevents => ?_
    · intro w saved w' hrun
      obtain ⟨table, -, hdomain⟩ := OrganizationRepository.provision_ok hrun
      exact OrganizationMapper.domainEvents_toDomain hdomain
    · rw [hevents]
      exact .bind (.pure ()) fun _ => .pure _

/-- **A suspension publishes nothing**: the aggregate that is saved comes back
without events. -/
theorem silent_suspend (server : Server) (ctx : Option String)
    (command : SuspendOrganizationCommand) :
    Silent (SuspendOrganizationHandler.execute server.publish ctx server.rt command) := by
  refine .bind (silent_findOrganization _ _) fun organization => ?_
  cases organization with
  | none => exact .pure _
  | some organization =>
      refine .bind (.lift _) fun suspended => .bind_answers (silent_saveOrganization _ _ _)
        (A := fun saved => saved.domainEvents = []) ?_ fun saved hevents => ?_
      · intro w saved w' hrun
        obtain ⟨-, table, -, -, hdomain⟩ := OrganizationRepository.save_ok hrun
        exact OrganizationMapper.domainEvents_toDomain hdomain
      · rw [hevents]
        exact .bind (.pure ()) fun _ => .pure _

/-- An update publishes nothing. -/
theorem silent_update (ctx : Option String) (rt : Runtime) (command : UpdateOrganizationCommand) :
    Silent (UpdateOrganizationHandler.execute ctx rt command) := by
  refine .bind (silent_findOrganization _ _) fun organization => ?_
  cases organization with
  | none => exact .pure _
  | some organization =>
      exact .bind (.lift _) fun _ => .bind (silent_saveOrganization _ _ _) fun _ => .pure _

/-- A cancellation publishes nothing. -/
theorem silent_cancel (ctx : Option String) (rt : Runtime)
    (command : CancelWorkflowExecutionCommand) :
    Silent (CancelWorkflowExecutionHandler.execute ctx rt command) := by
  refine .bind (silent_findExecution _ _ _) fun execution => ?_
  cases execution with
  | none => exact .pure _
  | some execution =>
      exact .bind (.lift _) fun _ => .bind (silent_saveExecution _ _ _) fun _ => .pure _

/-- Reading an execution publishes nothing. -/
theorem silent_get (ctx : Option String) (rt : Runtime) (query : GetWorkflowExecutionQuery) :
    Silent (GetWorkflowExecutionHandler.execute ctx rt query) := by
  refine .bind (silent_findExecution _ _ _) fun execution => ?_
  cases execution with
  | none => exact .pure _
  | some execution => exact .pure _

/-- Listing executions publishes nothing. -/
theorem silent_list (ctx : Option String) (ties : Typeorm.Arrangement WorkflowExecutionOrmEntity)
    (rt : Runtime) (query : ListWorkflowExecutionsQuery) :
    Silent (ListWorkflowExecutionsHandler.execute ctx ties rt query) :=
  .bind (.bind (leaves_requireTenantId (fun _ _ => rfl) _ _) fun _ => .bind (.lift _) fun _ =>
    .bind (leaves_uuidParameter _) fun _ => .bind (leaves_getManyAndCount _ _ _ _ _ _ _) fun _ =>
      .pure _) fun _ => .pure _

theorem silent_resolve (headers : Headers) (user : JwtPayload) :
    Silent (TenantId.resolve headers user) :=
  .bind (.modify fun _ => rfl) fun _ => .pure _

/-- Throwing the error of a result publishes nothing. -/
theorem silent_valueOrThrow {α : Type} {execute : App (Result α)} (h : Silent execute) :
    Silent (valueOrThrow execute) :=
  .bind h fun _ => .lift _

/-- A change of the answer publishes nothing. -/
theorem silent_map {α β : Type} {m : App α} (f : α → β) (h : Silent m) : Silent (f <$> m) :=
  .bind h fun _ => .pure _

theorem silent_getContext (ctx : Option TenantContext) :
    Silent (TenantContextService.getContext ctx) := by
  cases ctx with
  | some context => exact .pure context
  | none => exact .reject _

theorem silent_tenantId (ctx : Option TenantContext) : Silent (TenantContextService.tenantId ctx) :=
  .bind (.modify fun _ => rfl) fun _ => .bind (silent_getContext ctx) fun _ => .pure _

theorem silent_query (ctx : Option TenantContext) : Silent (DashboardController.query ctx) :=
  .bind (silent_tenantId ctx) fun _ =>
    .bind (.bind (silent_getContext ctx) fun _ => .pure _) fun _ => .pure _

theorem silent_getCount {ρ : Type} (rows : World → List ρ) (rowTenantId : ρ → String)
    (tenantId : String) (instants : List Js.Date) (condition : ρ → Bool) :
    Silent (getCount rows rowTenantId tenantId instants condition) :=
  .bind (leaves_uuidParameter _) fun _ => .bind (leaves_written _) fun _ => .gets _

theorem silent_daysOf {ρ : Type} (columns : List String) (dayColumn : String)
    (rows : World → List ρ) (rowTenantId : ρ → String) (date : ρ → Option Js.Date)
    (condition : ρ → Bool) (tenantId : String) (start : Js.Date) :
    Silent (GetEventSeriesHandler.daysOf columns dayColumn rows rowTenantId date condition
      tenantId start) :=
  .bind (leaves_written _) fun _ => .bind (leaves_uuidParameter _) fun _ =>
    .bind (leaves_written _) fun _ => .gets _

/-- The metrics publish nothing. -/
theorem silent_metrics (server : Server) (ctx : Option TenantContext) :
    Silent (DashboardController.metrics server ctx) :=
  .bind (silent_query ctx) fun _ => .bind (silent_tenantId ctx) fun _ =>
    .bind (silent_getCount _ _ _ _ _) fun _ => .bind (silent_getCount _ _ _ _ _) fun _ =>
    .bind (silent_getCount _ _ _ _ _) fun _ => .bind (silent_getCount _ _ _ _ _) fun _ =>
    .bind (.gets _) fun _ => .bind (silent_getCount _ _ _ _ _) fun _ =>
    .bind (silent_getCount _ _ _ _ _) fun _ => .pure _

/-- The series of events publishes nothing. -/
theorem silent_eventSeries (server : Server) (ctx : Option TenantContext) :
    Silent (DashboardController.eventSeries server ctx) :=
  .bind (silent_query ctx) fun _ => .bind (silent_tenantId ctx) fun _ =>
    .bind (silent_daysOf _ _ _ _ _ _ _ _) fun _ =>
      .bind (silent_daysOf _ _ _ _ _ _ _ _) fun _ => .pure _

/-- **No route publishes anything.** -/
theorem silent_dispatch (server : Server) (headers : Headers) (ctx : Option TenantContext)
    (user : JwtPayload) (route : Route) : Silent (dispatch server headers ctx user route) := by
  cases route with
  | createOrganization body => exact silent_map _ (silent_valueOrThrow (silent_create server _))
  | getOrganization id =>
      exact .bind (.bind (silent_resolve headers user) fun _ => .pure _) fun _ => .pure _
  | updateOrganization id body =>
      exact silent_map _ (.bind (silent_resolve headers user) fun _ =>
        silent_valueOrThrow (silent_update _ _ _))
  | suspendOrganization id body =>
      exact silent_map _ (.bind (silent_resolve headers user) fun _ =>
        silent_valueOrThrow (silent_suspend server _ _))
  | listExecutions params =>
      exact silent_map _ (.bind (silent_resolve headers user) fun _ =>
        silent_valueOrThrow (silent_list _ _ _ _))
  | getExecution id =>
      exact silent_map _ (.bind (silent_resolve headers user) fun _ =>
        silent_valueOrThrow (silent_get _ _ _))
  | cancelExecution id body =>
      exact silent_map _ (.bind (silent_resolve headers user) fun _ =>
        silent_valueOrThrow (silent_cancel _ _ _))
  | getAuditEvents params =>
      exact silent_map _ (AuditEventRepository.leaves_query (fun _ _ => rfl) _ _ _ _)
  | getAuditEvent id =>
      exact silent_map _ (AuditEventRepository.leaves_findById (fun _ _ => rfl) _ _)
  | metrics => exact silent_map _ (silent_metrics server ctx)
  | eventSeries => exact silent_map _ (silent_eventSeries server ctx)

/-- **No request publishes a platform event**, however it ends. -/
theorem silent_handle (server : Server) (request : Request) : Silent (server.handle request) :=
  .bind (.lift _) fun user => .bind (.lift _) fun _ => silent_dispatch server _ _ user _

/-- No event carries another correlation id, since there is none. -/
theorem events_eq_nil (server : Server) (request : Request) (w : World) :
    server.events request w = [] := by
  rw [Server.events, (silent_handle server request).part_eq w, List.drop_length]

end Silence

/-! ## One id -/

/- What is left to compare is the header, the context and the ids of the commands, which
are values of the request. -/

/-- The response header, `request.correlationId`, the context, the commands and
the events all have one correlation id. -/
def Server.OneCorrelationId (server : Server) (request : Request) (w : World) : Prop :=
  ∃ c, (server.correlationIds request).responseHeader = some c ∧
    (server.correlationIds request).request = some c ∧
    (server.correlationIds request).context = some c ∧
    (∀ id ∈ (server.correlationIds request).commands, id = c) ∧
    ∀ event ∈ server.events request w, event.correlationId = c

/-- The routes that build a command. -/
def Route.buildsCommand : Route → Bool
  | .createOrganization _ | .updateOrganization _ _ | .suspendOrganization _ _
  | .cancelExecution _ _ => true
  | _ => false

/-- A command has the id that was made up for it. -/
theorem commands_eq (server : Server) (headers : Headers) (user : JwtPayload) (route : Route) :
    route.commands server headers user =
      if route.buildsCommand then [server.commandCorrelationId] else [] := by
  cases route <;> rfl

/-- The middleware takes the correlation id of the header, where there is a
tenant. -/
theorem context_eq {server : Server} {headers : Headers} {tenantId : String}
    (htenant : headers.xTenantId = some tenantId) :
    (TenantContextMiddleware.use server.contextCorrelationId headers).map
        TenantContext.correlationId =
      some (headers.xCorrelationId.getD server.contextCorrelationId) := by
  rw [TenantContextMiddleware.use, htenant]
  rfl

/-- A token that passport accepts leaves the rest to the roles. -/
theorem authorize_eq {request : Request} {user : JwtPayload}
    (hauthenticated : JwtAuthGuard.canActivate request.token = .ok user) :
    request.authorize = (RbacGuard.canActivate request.route.roles user).map fun _ => user := by
  rw [Request.authorize, hauthenticated]
  show (RbacGuard.canActivate request.route.roles user >>= fun _ => .ok user) = _
  cases RbacGuard.canActivate request.route.roles user with
  | ok u => rfl
  | error e => rfl

/-- The ids of a request that the roles admit. -/
theorem correlationIds_eq {server : Server} {request : Request} {user : JwtPayload}
    {tenantId : String} (hauthenticated : JwtAuthGuard.canActivate request.token = .ok user)
    (htenant : request.headers.xTenantId = some tenantId)
    (hrole : RbacGuard.canActivate request.route.roles user = .ok ()) :
    server.correlationIds request =
      { responseHeader := some (request.headers.xCorrelationId.getD server.requestCorrelationId)
        request := some (request.headers.xCorrelationId.getD server.requestCorrelationId)
        context := some (request.headers.xCorrelationId.getD server.contextCorrelationId)
        commands := match request.validate with
          | .ok () => request.route.commands server request.headers user
          | .error _ => [] } := by
  have hauthorize := authorize_eq hauthenticated
  rw [hrole] at hauthorize
  rw [Server.correlationIds, context_eq htenant, hauthorize]
  rfl

/-- The commands have one id exactly where none is built, or they make up that id. -/
theorem commands_all_iff {server : Server} {request : Request} {user : JwtPayload}
    {tenantId : String} (hauthenticated : JwtAuthGuard.canActivate request.token = .ok user)
    (htenant : request.headers.xTenantId = some tenantId)
    (hrole : RbacGuard.canActivate request.route.roles user = .ok ()) (id : String) :
    (∀ id' ∈ (server.correlationIds request).commands, id' = id) ↔
      (request.validate = .ok () → request.route.buildsCommand = true →
        server.commandCorrelationId = id) := by
  rw [correlationIds_eq hauthenticated htenant hrole]
  cases hvalidate : request.validate with
  | error e => simp
  | ok u =>
      cases hbuilds : request.route.buildsCommand with
      | true => simp [commands_eq, hbuilds]
      | false => simp [commands_eq, hbuilds]

/-- **One correlation id per request** there is exactly where the roles admit
the user, no two ids are made up that differ, and every command happens to make
up the id of the request. -/
theorem one_correlation_id_iff (server : Server) (request : Request) (w : World)
    {user : JwtPayload} {tenantId : String}
    (hauthenticated : JwtAuthGuard.canActivate request.token = .ok user)
    (htenant : request.headers.xTenantId = some tenantId) :
    server.OneCorrelationId request w ↔
      RbacGuard.canActivate request.route.roles user = .ok () ∧
      (request.headers.xCorrelationId = none →
        server.requestCorrelationId = server.contextCorrelationId) ∧
      (request.validate = .ok () → request.route.buildsCommand = true →
        server.commandCorrelationId =
          request.headers.xCorrelationId.getD server.requestCorrelationId) := by
  cases hrole : RbacGuard.canActivate request.route.roles user with
  | error e =>
      have hrefused : (server.correlationIds request).request = none := by
        have hauthorize := authorize_eq hauthenticated
        rw [hrole] at hauthorize
        rw [Server.correlationIds, hauthorize]
        rfl
      constructor
      · rintro ⟨c, -, hrequest, -⟩
        rw [hrefused] at hrequest
        cases hrequest
      · rintro ⟨hok, -⟩
        cases hok
  | ok _ =>
      have hids := @correlationIds_eq server request user tenantId hauthenticated htenant hrole
      have hcommands := @commands_all_iff server request user tenantId hauthenticated htenant hrole
      have hmadeUp : request.headers.xCorrelationId.getD server.contextCorrelationId =
          request.headers.xCorrelationId.getD server.requestCorrelationId ↔
          (request.headers.xCorrelationId = none →
            server.requestCorrelationId = server.contextCorrelationId) := by
        cases request.headers.xCorrelationId with
        | some id => simp
        | none => simp [eq_comm]
      constructor
      · rintro ⟨c, hheader, -, hctx, hall, -⟩
        rw [hids] at hheader hctx
        obtain rfl := Option.some.inj hheader
        exact ⟨rfl, hmadeUp.mp (Option.some.inj hctx), (hcommands _).mp hall⟩
      · rintro ⟨-, hsame, hcommand⟩
        refine ⟨request.headers.xCorrelationId.getD server.requestCorrelationId, ?_, ?_, ?_,
          (hcommands _).mpr hcommand, ?_⟩
        · rw [hids]
        · rw [hids]
        · rw [hids]
          exact congrArg some (hmadeUp.mpr hsame)
        · rw [events_eq_nil]
          simp

/-- An owner of tenant 1 asks for an execution, or cancels it. -/
def correlatedRequest (route : Route) : Request where
  headers := ⟨some (Pg.uuidOf 1), some (Pg.uuidOf 11)⟩
  token := some ⟨Pg.uuidOf 2, none, Pg.uuidOf 1, some "owner", .access⟩
  route := route
  invalid := none

/-- A request that only reads has the one of its header. -/
theorem one_correlation_id_read :
    sampleServer.OneCorrelationId (correlatedRequest (.getExecution (Pg.uuidOf 5))) emptyWorld :=
  (one_correlation_id_iff sampleServer (correlatedRequest (.getExecution (Pg.uuidOf 5))) emptyWorld
    rfl rfl).mpr ⟨by decide +kernel, nofun, nofun⟩

/-- The command has a correlation id of its own. -/
theorem command_makes_up_id :
    ¬ ∀ (server : Server) (request : Request) (w : World) (user : JwtPayload) (tenantId : String),
      JwtAuthGuard.canActivate request.token = .ok user →
      request.headers.xTenantId = some tenantId → server.OneCorrelationId request w := by
  intro hclaim
  obtain ⟨c, hheader, -, -, hcommands, -⟩ := hclaim sampleServer
    (correlatedRequest (.cancelExecution (Pg.uuidOf 5) ⟨none⟩)) emptyWorld _ _ rfl rfl
  have hcommand := hcommands sampleServer.commandCorrelationId (by decide +kernel)
  rw [← hcommand] at hheader
  revert hheader
  decide +kernel

end Atlas
