import Atlas.Requests.Login

/-!
# Atlas.Requests.Routes

The routes of the API, step by step.

A route that awaits one query is one step.  A dashboard awaits all its queries
at once, in `Promise.all`; they are taken in the order they are issued in.
-/

namespace Atlas

open StoreKit StoreKit.Program TenantAwareRepository

/-! ## Dashboards -/

namespace GetDashboardMetricsHandler

def steps (percentChange : (current previous : Nat) → Js.Number) (ctx : Option TenantContext)
    (now : Js.Date) : Handler DashboardMetricsResult := do
  let tenantId ← .call (TenantContextService.tenantId ctx)
  let last24hStart := now - Js.msPerDay
  let prev24hStart := now - 2 * Js.msPerDay
  let totalEvents ← .call (getCount (fun w => w.auditEvents.rows) AuditEventOrmEntity.tenantId
    tenantId [] fun _ => true)
  let activeWorkflows ← .call (getCount (fun w => w.workflowExecutions.rows)
    WorkflowExecutionOrmEntity.tenantId tenantId []
    fun row => row.status = .running || row.status = .pending)
  let failedExecutionsLast24h ← .call (countFailed tenantId last24hStart none)
  let failedExecutionsPrev24h ← .call (countFailed tenantId prev24hStart (some last24hStart))
  let tenantCount ← .call (.gets fun w => w.organizations.rows.length)
  let eventsLast24h ← .call (countEvents tenantId last24hStart none)
  let eventsPrev24h ← .call (countEvents tenantId prev24hStart (some last24hStart))
  pure {
    totalEvents
    activeWorkflows
    failedExecutions := failedExecutionsLast24h
    tenantCount
    eventsTrend := percentChange eventsLast24h eventsPrev24h
    failedTrend := percentChange failedExecutionsLast24h failedExecutionsPrev24h }

/-- The queries of the metrics, one after the other, are the handler's. -/
theorem run_steps (percentChange : (current previous : Nat) → Js.Number)
    (ctx : Option TenantContext) (now : Js.Date) :
    (steps percentChange ctx now).run = execute percentChange ctx now := by
  unfold steps execute
  simp only [Thread.run_bind, Thread.run_call]
  rfl

end GetDashboardMetricsHandler

namespace GetEventSeriesHandler

def steps (ctx : Option TenantContext) (now : Js.Date) : Handler (List EventSeriesPoint) := do
  let tenantId ← .call (TenantContextService.tenantId ctx)
  let todayStartUtc := startOfUtcDay now
  let windowStart := todayStartUtc - (SERIES_DAYS - 1 : Nat) * Js.msPerDay
  let eventRows ← .call (daysOf AuditEventOrmEntity.columns "occurredAt"
    (fun w => w.auditEvents.rows) AuditEventOrmEntity.tenantId (fun row => some row.occurredAt)
    (fun _ => true) tenantId windowStart)
  let failureRows ← .call (daysOf WorkflowExecutionOrmEntity.columns "created_at"
    (fun w => w.workflowExecutions.rows) WorkflowExecutionOrmEntity.tenantId
    WorkflowExecutionOrmEntity.createdAt (fun row => row.status = .failed) tenantId windowStart)
  pure ((List.range SERIES_DAYS).map fun (i : Nat) =>
    let day := windowStart + i * Js.msPerDay
    let key := formatDay day
    { time := key, events := eventRows.count key, failures := failureRows.count key })

/-- The queries of the series, one after the other, are the handler's. -/
theorem run_steps (ctx : Option TenantContext) (now : Js.Date) :
    (steps ctx now).run = execute ctx now := by
  unfold steps execute
  simp only [Thread.run_bind, Thread.run_call]
  rfl

end GetEventSeriesHandler

/-! ## Controllers -/

/-- `if (!result.success) throw result.error; return result.value;` -/
def valueOrThrowSteps {α : Type} (execute : Handler (Result α)) : Handler α := do
  let result ← execute
  .lift result

/-- Throwing the error of a result takes no step of its own. -/
theorem run_valueOrThrowSteps {α : Type} (execute : Handler (Result α)) :
    (valueOrThrowSteps execute).run = valueOrThrow execute.run := by
  rw [valueOrThrowSteps, valueOrThrow, Thread.run_bind]
  exact congrArg _ (funext fun result => Thread.run_lift result)

/-- A method that is given the tenant of the request. -/
theorem run_resolved {α : Type} {headers : Headers} {user : JwtPayload}
    (execute : String → Handler (Result α)) :
    (Thread.call (TenantId.resolve headers user) >>= fun tenantId =>
      valueOrThrowSteps (execute tenantId)).run =
      TenantId.resolve headers user >>= fun tenantId => valueOrThrow (execute tenantId).run := by
  rw [Thread.run_bind, Thread.run_call]
  exact congrArg _ (funext fun tenantId => run_valueOrThrowSteps (execute tenantId))

section Api

variable {Token : Type} (api : ApiServer Token)

def DashboardController.metricsSteps (server : Server) (ctx : Option TenantContext) :
    Handler DashboardMetricsResult := do
  let _ ← .call (query ctx)
  GetDashboardMetricsHandler.steps server.percentChange ctx server.rt.now

def DashboardController.eventSeriesSteps (server : Server) (ctx : Option TenantContext) :
    Handler (List EventSeriesPoint) := do
  let _ ← .call (query ctx)
  GetEventSeriesHandler.steps ctx server.rt.now

def IdentityController.registerSteps (body : RegisterBody) : Handler RegisterUserResult :=
  valueOrThrowSteps (RegisterUserHandler.steps api.eventBus.steps api.bcryptHash api.rt
    (registerCommand api body))

def IdentityController.loginSteps (body : LoginBody) : Handler (TokenPair Token) :=
  valueOrThrowSteps (AuthenticateHandler.steps api.bcryptCompare api.sign api.organizationTies
    api.rt (loginCommand api body))

namespace ApiServer

section Guarded

variable (headers : Headers) (ctx : Option TenantContext) (user : JwtPayload)

def createOrganizationSteps (body : CreateOrganizationBody) : Handler OrganizationDto :=
  valueOrThrowSteps (CreateOrganizationHandler.steps api.eventBus.steps api.rt
    (TenantCoreController.createOrganizationCommand api.toServer user body))

def updateOrganizationSteps (id : String) (body : UpdateOrganizationBody) :
    Handler OrganizationDto := do
  let tenantId ← .call (TenantId.resolve headers user)
  valueOrThrowSteps (UpdateOrganizationHandler.steps (TenantContextService.tryGetTenantId ctx)
    api.rt (TenantCoreController.updateOrganizationCommand api.toServer user id body tenantId))

def suspendOrganizationSteps (id : String) (body : SuspendOrganizationBody) :
    Handler OrganizationDto := do
  let tenantId ← .call (TenantId.resolve headers user)
  valueOrThrowSteps (SuspendOrganizationHandler.steps api.eventBus.steps
    (TenantContextService.tryGetTenantId ctx) api.rt
    (TenantCoreController.suspendOrganizationCommand api.toServer user id body tenantId))

def cancelExecutionSteps (id : String) (body : CancelExecutionBody) :
    Handler WorkflowExecutionDto := do
  let tenantId ← .call (TenantId.resolve headers user)
  valueOrThrowSteps (CancelWorkflowExecutionHandler.steps (TenantContextService.tryGetTenantId ctx)
    api.rt (WorkflowController.cancelExecutionCommand api.toServer user id body tenantId))

def guardedSteps : Route → Handler Response
  | .createOrganization body => Response.organization <$> api.createOrganizationSteps user body
  | .updateOrganization id body =>
      Response.organization <$> api.updateOrganizationSteps headers ctx user id body
  | .suspendOrganization id body =>
      Response.organization <$> api.suspendOrganizationSteps headers ctx user id body
  | .cancelExecution id body =>
      Response.execution <$> api.cancelExecutionSteps headers ctx user id body
  | .metrics => Response.metrics <$> DashboardController.metricsSteps api.toServer ctx
  | .eventSeries => Response.eventSeries <$> DashboardController.eventSeriesSteps api.toServer ctx
  | route => .call (Atlas.dispatch api.toServer headers ctx user route)

end Guarded

def dispatchSteps : ApiRequest → Handler (ApiResponse Token)
  | .register _ body _ => ApiResponse.registered <$> IdentityController.registerSteps api body
  | .login _ body _ => ApiResponse.tokens <$> IdentityController.loginSteps api body
  | .guarded request => do
      let ctx := TenantContextMiddleware.use api.contextCorrelationId request.headers
      let user ← .lift request.authorize
      ApiResponse.guarded <$> api.guardedSteps request.headers ctx user request.route

def steps (request : ApiRequest) : Handler (ApiResponse Token) := do
  .lift request.authorize
  .lift request.validate
  api.dispatchSteps request

/-! ## On their own -/

/-- Every publish of the API goes through its bus. -/
theorem run_publish : (fun event => (api.eventBus.steps event).run) = api.eventBus.publish :=
  funext fun event => api.eventBus.run_steps event

section Guarded

variable (headers : Headers) (ctx : Option TenantContext) (user : JwtPayload)

theorem run_createOrganizationSteps (body : CreateOrganizationBody) :
    (api.createOrganizationSteps user body).run = api.createOrganization user body := by
  rw [createOrganizationSteps, run_valueOrThrowSteps, CreateOrganizationHandler.run_steps,
    run_publish]
  rfl

theorem run_updateOrganizationSteps (id : String) (body : UpdateOrganizationBody) :
    (api.updateOrganizationSteps headers ctx user id body).run =
      TenantCoreController.updateOrganization api.toServer headers ctx user id body := by
  rw [updateOrganizationSteps, run_resolved]
  simp only [UpdateOrganizationHandler.run_steps]
  rfl

theorem run_suspendOrganizationSteps (id : String) (body : SuspendOrganizationBody) :
    (api.suspendOrganizationSteps headers ctx user id body).run =
      api.suspendOrganization headers ctx user id body := by
  rw [suspendOrganizationSteps, run_resolved]
  simp only [SuspendOrganizationHandler.run_steps, run_publish]
  rfl

theorem run_cancelExecutionSteps (id : String) (body : CancelExecutionBody) :
    (api.cancelExecutionSteps headers ctx user id body).run =
      WorkflowController.cancelExecution api.toServer headers ctx user id body := by
  rw [cancelExecutionSteps, run_resolved]
  simp only [CancelWorkflowExecutionHandler.run_steps]
  rfl

theorem run_metricsSteps :
    (DashboardController.metricsSteps api.toServer ctx).run =
      DashboardController.metrics api.toServer ctx := by
  rw [DashboardController.metricsSteps, Thread.run_bind, Thread.run_call]
  exact congrArg _ (funext fun _ => GetDashboardMetricsHandler.run_steps _ ctx _)

theorem run_eventSeriesSteps :
    (DashboardController.eventSeriesSteps api.toServer ctx).run =
      DashboardController.eventSeries api.toServer ctx := by
  rw [DashboardController.eventSeriesSteps, Thread.run_bind, Thread.run_call]
  exact congrArg _ (funext fun _ => GetEventSeriesHandler.run_steps ctx _)

/-- A route behind the guards, taken at once. -/
theorem run_guardedSteps (route : Route) :
    (api.guardedSteps headers ctx user route).run =
      api.dispatchGuarded headers ctx user route := by
  cases route with
  | createOrganization body =>
      exact (Thread.run_map _ _).trans
        (congrArg _ (api.run_createOrganizationSteps user body))
  | updateOrganization id body =>
      exact (Thread.run_map _ _).trans
        (congrArg _ (api.run_updateOrganizationSteps headers ctx user id body))
  | suspendOrganization id body =>
      exact (Thread.run_map _ _).trans
        (congrArg _ (api.run_suspendOrganizationSteps headers ctx user id body))
  | cancelExecution id body =>
      exact (Thread.run_map _ _).trans
        (congrArg _ (api.run_cancelExecutionSteps headers ctx user id body))
  | metrics => exact (Thread.run_map _ _).trans (congrArg _ (api.run_metricsSteps ctx))
  | eventSeries => exact (Thread.run_map _ _).trans (congrArg _ (api.run_eventSeriesSteps ctx))
  | getOrganization id => exact Thread.run_call _
  | listExecutions params => exact Thread.run_call _
  | getExecution id => exact Thread.run_call _
  | getAuditEvents params => exact Thread.run_call _
  | getAuditEvent id => exact Thread.run_call _

end Guarded

/-- A request that is let in, taken at once. -/
theorem run_dispatchSteps (request : ApiRequest) :
    (api.dispatchSteps request).run = api.dispatch request := by
  cases request with
  | register headers body invalid =>
      refine (Thread.run_map _ _).trans (congrArg _ ?_)
      rw [IdentityController.registerSteps, run_valueOrThrowSteps, RegisterUserHandler.run_steps,
        run_publish]
      rfl
  | login headers body invalid =>
      refine (Thread.run_map _ _).trans (congrArg _ ?_)
      rw [IdentityController.loginSteps, run_valueOrThrowSteps, AuthenticateHandler.run_steps]
      rfl
  | guarded request =>
      rw [dispatchSteps, Thread.run_bind, Thread.run_lift]
      refine congrArg _ (funext fun user => ?_)
      rw [Thread.run_map, run_guardedSteps]

/-- Without interruption a request is what the API serves. -/
theorem run_steps (request : ApiRequest) : (api.steps request).run = api.serve request := by
  rw [steps, Thread.run_bind, Thread.run_lift]
  refine congrArg _ (funext fun _ => ?_)
  rw [Thread.run_bind, Thread.run_lift]
  exact congrArg _ (funext fun _ => api.run_dispatchSteps request)

end ApiServer

end Api

end Atlas
