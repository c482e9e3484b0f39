import Atlas.Audit.Repository
import Atlas.Dashboard.Handlers
import Atlas.Http.Guards
import Atlas.TenantCore.EventPublication
import Atlas.Workflow.Handlers

/-!
# Atlas.Http.Controllers

The routes behind `JwtAuthGuard` and `RbacGuard`, and how a request gets to
its own: through the middleware, the guards and the validation pipe.

A controller is given the body and the parameters as the pipe leaves them.
-/

namespace Atlas

open StoreKit

/-! ## Requests -/

structure CreateOrganizationBody where
  name : String
  slug : String
  planTier : Option TenantPlanTier
deriving DecidableEq

structure UpdateOrganizationBody where
  name : Option String
  planTier : Option TenantPlanTier
deriving DecidableEq

structure SuspendOrganizationBody where
  reason : Option String
deriving DecidableEq

structure ListExecutionsQueryParams where
  status : Option WorkflowExecutionStatus
  page : Option Js.Number
  limit : Option Js.Number
deriving DecidableEq

structure CancelExecutionBody where
  reason : Option String
deriving DecidableEq

structure AuditQueryParams where
  actorId : Option String
  action : Option String
  resourceType : Option String
  resourceId : Option String
  page : Option Js.Number
  limit : Option Js.Number
deriving DecidableEq

inductive Route where
  | createOrganization (body : CreateOrganizationBody)
  | getOrganization (id : String)
  | updateOrganization (id : String) (body : UpdateOrganizationBody)
  | suspendOrganization (id : String) (body : SuspendOrganizationBody)
  | listExecutions (params : ListExecutionsQueryParams)
  | getExecution (id : String)
  | cancelExecution (id : String) (body : CancelExecutionBody)
  | getAuditEvents (params : AuditQueryParams)
  | getAuditEvent (id : String)
  | metrics
  | eventSeries
deriving DecidableEq

/-- `@Roles(…)`, on the method or on the controller. -/
def Route.roles : Route → List MembershipRole
  | .createOrganization _ => []
  | .getOrganization _ => [.VIEWER]
  | .updateOrganization _ _ => [.ADMIN]
  | .suspendOrganization _ _ => [.OWNER]
  | .listExecutions _ => [.MEMBER]
  | .getExecution _ => [.MEMBER]
  | .cancelExecution _ _ => [.ADMIN]
  | .getAuditEvents _ => [.ADMIN]
  | .getAuditEvent _ => [.ADMIN]
  | .metrics => [.VIEWER]
  | .eventSeries => [.VIEWER]

structure Request where
  headers : Headers
  /-- The claims of the bearer token, if passport verifies it. -/
  token : Option JwtPayload
  route : Route
  /-- What the validation pipe objects to in the parameters and the body. -/
  invalid : Option Exception
deriving DecidableEq

inductive Response where
  | organization (dto : OrganizationDto)
  | tenantOf (id tenantId : String)
  | executions (page : PaginatedResult WorkflowExecutionDto)
  | execution (dto : WorkflowExecutionDto)
  | auditEvents (page : PaginatedResult AuditEventEntity)
  | auditEvent (event : Option AuditEventEntity)
  | metrics (data : DashboardMetricsResult)
  | eventSeries (data : List EventSeriesPoint)
deriving DecidableEq

/-- What the runtime hands out while a request is handled. -/
structure Server where
  rt : Runtime
  /-- Whether the event bus accepts what is published. -/
  bus : Except Exception Unit
  /-- The correlation id that the middleware makes up. -/
  contextCorrelationId : String
  /-- The correlation id that the interceptor makes up. -/
  requestCorrelationId : String
  /-- The correlation id that a command or a query makes up. -/
  commandCorrelationId : String
  executionTies : Typeorm.Arrangement WorkflowExecutionOrmEntity
  auditTies : Typeorm.Arrangement AuditEventOrmEntity
  percentChange : (current previous : Nat) → Js.Number

def Server.publish (server : Server) (event : TenantAwareEvent) : App Unit := do
  recordingBus event
  .lift server.bus

/-! ## Controllers -/

/-- `if (!result.success) throw result.error; return result.value;` -/
def valueOrThrow {α : Type} (execute : App (Result α)) : App α := do
  let result ← execute
  .lift result

/-- `user.correlationId`: the claims of a token have no such property. -/
def JwtPayload.correlationId (_ : JwtPayload) : Option String := none

/-- The constructors of `Command` and `Query`: without a correlation id they
make one up. -/
def Server.correlationId (server : Server) (given : Option String) : String :=
  given.getD server.commandCorrelationId

section Controllers

variable (server : Server) (headers : Headers) (ctx : Option TenantContext) (user : JwtPayload)

namespace TenantCoreController

def createOrganizationCommand (body : CreateOrganizationBody) : CreateOrganizationCommand where
  name := body.name
  slug := body.slug
  planTier := body.planTier.getD .FREE
  tenantId := "system"
  correlationId := server.correlationId user.correlationId
  actorId := some user.sub

def createOrganization (body : CreateOrganizationBody) : App OrganizationDto :=
  valueOrThrow (CreateOrganizationHandler.execute server.publish server.rt
    (createOrganizationCommand server user body))

def getOrganization (id : String) : App (String × String) := do
  let tenantId ← TenantId.resolve headers user
  return (id, tenantId)

def updateOrganizationCommand (id : String) (body : UpdateOrganizationBody) (tenantId : String) :
    UpdateOrganizationCommand where
  organizationId := id
  name := body.name
  planTier := body.planTier
  tenantId := tenantId
  correlationId := server.correlationId user.correlationId
  actorId := some user.sub

def updateOrganization (id : String) (body : UpdateOrganizationBody) : App OrganizationDto := do
  let tenantId ← TenantId.resolve headers user
  valueOrThrow (UpdateOrganizationHandler.execute (TenantContextService.tryGetTenantId ctx)
    server.rt (updateOrganizationCommand server user id body tenantId))

def suspendOrganizationCommand (id : String) (body : SuspendOrganizationBody)
    (tenantId : String) : SuspendOrganizationCommand where
  organizationId := id
  reason := body.reason.getD "No reason provided"
  tenantId := tenantId
  correlationId := server.correlationId user.correlationId
  actorId := some user.sub

def suspendOrganization (id : String) (body : SuspendOrganizationBody) :
    App OrganizationDto := do
  let tenantId ← TenantId.resolve headers user
  valueOrThrow (SuspendOrganizationHandler.execute server.publish
    (TenantContextService.tryGetTenantId ctx) server.rt
    (suspendOrganizationCommand server user id body tenantId))

end TenantCoreController

namespace WorkflowController

def listExecutions (params : ListExecutionsQueryParams) :
    App (PaginatedResult WorkflowExecutionDto) := do
  let tenantId ← TenantId.resolve headers user
  let query : ListWorkflowExecutionsQuery := {
    tenantId
    correlationId := server.correlationId user.correlationId
    status := params.status
    page := params.page.getD 1
    limit := params.limit.getD 20 }
  valueOrThrow (ListWorkflowExecutionsHandler.execute (TenantContextService.tryGetTenantId ctx)
    server.executionTies server.rt query)

def getExecution (id : String) : App WorkflowExecutionDto := do
  let tenantId ← TenantId.resolve headers user
  let query : GetWorkflowExecutionQuery := {
    tenantId
    correlationId := server.correlationId user.correlationId
    executionId := id }
  valueOrThrow (GetWorkflowExecutionHandler.execute (TenantContextService.tryGetTenantId ctx)
    server.rt query)

def cancelExecutionCommand (id : String) (body : CancelExecutionBody) (tenantId : String) :
    CancelWorkflowExecutionCommand where
  executionId := id
  reason := body.reason
  tenantId := tenantId
  correlationId := server.correlationId user.correlationId
  actorId := some user.sub

def cancelExecution (id : String) (body : CancelExecutionBody) : App WorkflowExecutionDto := do
  let tenantId ← TenantId.resolve headers user
  valueOrThrow (CancelWorkflowExecutionHandler.execute (TenantContextService.tryGetTenantId ctx)
    server.rt (cancelExecutionCommand server user id body tenantId))

end WorkflowController

namespace AuditController

def getAuditEvents (params : AuditQueryParams) : App (PaginatedResult AuditEventEntity) :=
  AuditEventRepository.query (TenantContextService.tryGetTenantId ctx) server.auditTies
    { actorId := params.actorId, action := params.action, resourceType := params.resourceType,
      resourceId := params.resourceId, outcome := none, fromDate := none, toDate := none }
    { page := params.page, limit := params.limit }

def getAuditEvent (id : String) : App (Option AuditEventEntity) :=
  AuditEventRepository.findById (TenantContextService.tryGetTenantId ctx) id

end AuditController

namespace DashboardController

/-- The arguments of a dashboard query, which its handler does not look at. -/
def query : App (String × String) := do
  let tenantId ← TenantContextService.tenantId ctx
  let correlationId ← TenantContextService.correlationId ctx
  return (tenantId, correlationId)

def metrics : App DashboardMetricsResult := do
  let _ ← query ctx
  GetDashboardMetricsHandler.execute server.percentChange ctx server.rt.now

def eventSeries : App (List EventSeriesPoint) := do
  let _ ← query ctx
  GetEventSeriesHandler.execute ctx server.rt.now

end DashboardController

/-- The method that a route leads to. -/
def dispatch : Route → App Response
  | .createOrganization body =>
      Response.organization <$> TenantCoreController.createOrganization server user body
  | .getOrganization id => do
      let (id, tenantId) ← TenantCoreController.getOrganization headers user id
      return .tenantOf id tenantId
  | .updateOrganization id body => Response.organization <$>
      TenantCoreController.updateOrganization server headers ctx user id body
  | .suspendOrganization id body => Response.organization <$>
      TenantCoreController.suspendOrganization server headers ctx user id body
  | .listExecutions params =>
      Response.executions <$> WorkflowController.listExecutions server headers ctx user params
  | .getExecution id =>
      Response.execution <$> WorkflowController.getExecution server headers ctx user id
  | .cancelExecution id body => Response.execution <$>
      WorkflowController.cancelExecution server headers ctx user id body
  | .getAuditEvents params =>
      Response.auditEvents <$> AuditController.getAuditEvents server ctx params
  | .getAuditEvent id => Response.auditEvent <$> AuditController.getAuditEvent ctx id
  | .metrics => Response.metrics <$> DashboardController.metrics server ctx
  | .eventSeries => Response.eventSeries <$> DashboardController.eventSeries server ctx

end Controllers

/-! ## The way of a request -/

/-- The claims with which a request passes the guards of its route. -/
def Request.authorize (request : Request) : Except Exception JwtPayload := do
  let user ← JwtAuthGuard.canActivate request.token
  RbacGuard.canActivate request.route.roles user
  return user

/-- The validation pipe. -/
def Request.validate (request : Request) : Except Exception Unit :=
  match request.invalid with
  | some violations => .error violations
  | none => .ok ()

def Server.handle (server : Server) (request : Request) : App Response := do
  let ctx := TenantContextMiddleware.use server.contextCorrelationId request.headers
  let user ← .lift request.authorize
  .lift request.validate
  dispatch server request.headers ctx user request.route

end Atlas
