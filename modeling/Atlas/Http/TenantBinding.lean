import Atlas.Http.Controllers
import Atlas.Isolation.WriteFrame

/-!
# Atlas.Http.TenantBinding

Which tenant a request is handled for.

A method either keeps what holds of the record of tenants (`Keeps`), or begins
by giving the tenant of the context to a tenant-scoped operation (`Asks`).  So
the record of a request is known for each route: nothing, the header or the
token through `@TenantId()`, and the header alone once for each operation.
-/

namespace Atlas

open StoreKit StoreKit.Program TenantAwareRepository

/-! ## The record -/

/- Every program is read for one thing only: the tenants it asks for.  `Keeps` and `Asks`
are the two shapes, and the rules below follow the programs bind by bind, without a look
at what they compute. -/

section Record

variable {P : List (Option String) → Prop} {ctx : Option String} {α β : Type}

/-- A program keeps what holds of the record of tenants. -/
abbrev Keeps (P : List (Option String) → Prop) (m : App α) : Prop :=
  Triple (fun w => P w.tenants) m (fun _ w => P w.tenants) fun w => P w.tenants

/-- A program asks for the tenant of `ctx`, once: what holds of the record with `ctx` at
its end holds of the record afterwards. -/
abbrev Asks (P : List (Option String) → Prop) (ctx : Option String) (m : App α) : Prop :=
  Triple (fun w => P (w.tenants ++ [ctx])) m (fun _ w => P w.tenants) fun w => P w.tenants

/-- A property that one more tenant does not break is kept by asking for it. -/
theorem keeps_of_asks {m : App α} (hP : ∀ record, P record → P (record ++ [ctx]))
    (h : Asks P ctx m) : Keeps P m :=
  h.weaken (fun _ hw => hP _ hw) (fun _ _ hw => hw) fun _ hw => hw

/-- Values ask for no tenant. -/
theorem keeps_pure (a : α) : Keeps P (pure a) := .pure fun _ hw => hw

/-- A query asks for no tenant. -/
theorem keeps_gets (f : World → α) : Keeps P (.gets f) := .gets fun _ hw => hw

/-- An error asks for no tenant. -/
theorem keeps_lift (x : Except Exception α) : Keeps P (.lift x) :=
  .lift (fun _ _ _ hw => hw) fun _ hw => hw

/-- A statement that leaves the record alone asks for no tenant. -/
theorem keeps_modify {f : World → World} (hf : ∀ w, (f w).tenants = w.tenants) :
    Keeps P (.modify f) :=
  .modify fun w hw => (congrArg P (hf w)).mpr hw

/-- A value that a column refuses stops the program with the record as it was. -/
theorem keeps_written (result : Option α) : Keeps P (written result) := by
  cases result with
  | some a => exact keeps_pure a
  | none => exact .reject fun _ hw => hw

theorem keeps_uuidParameter (s : String) : Keeps P (uuidParameter s) := by
  unfold uuidParameter
  split
  · exact keeps_pure _
  · exact .reject fun _ hw => hw

theorem keeps_columnParameter (value : Option String) : Keeps P (columnParameter value) := by
  cases value with
  | some s => exact .bind (keeps_uuidParameter s) fun _ => keeps_pure _
  | none => exact keeps_pure none

/-- A look-up reads the conditions it is given and asks for nothing more. -/
theorem keeps_findOne {ρ : Type} (rows : World → List ρ) (tenantId id : ρ → String)
    (options : FindOptionsWhere) : Keeps P (findOne rows tenantId id options) :=
  .bind (keeps_columnParameter _) fun _ => .bind (keeps_columnParameter _) fun _ => keeps_gets _

/-- A page of a list asks for no tenant: its condition is a value. -/
theorem keeps_getManyAndCount {ρ : Type} (arithmetic : Js.Arithmetic) (rows : World → List ρ)
    (ties : Typeorm.Arrangement ρ) (date : ρ → Js.Date) (condition : ρ → Bool)
    (skip take : Js.Number) : Keeps P (getManyAndCount arithmetic rows ties date condition skip take) :=
  .bind (keeps_gets _) fun _ => .bind (keeps_lift _) fun _ => keeps_pure _

/-- TypeORM's `save` does not know of tenants. -/
theorem keeps_saveOrm {ρ : Type} (t : DatedTable ρ)
    (htable : ∀ w table, (t.setTable w table).tenants = w.tenants) (savedAt : Js.Date) (orm : ρ) :
    Keeps P (t.saveOrm savedAt orm) :=
  .bind (keeps_gets _) fun _ => .bind (keeps_gets _) fun _ => .bind (keeps_written _) fun _ =>
    .bind (keeps_modify fun w => htable w _) fun _ => keeps_pure _

/-- The record grows by the tenant of the context. -/
theorem asks_noteTenant : Asks P ctx (noteTenant ctx) := .modify fun _ hw => hw

/-- `requireTenantId` asks once, whether it answers or throws. -/
theorem asks_requireTenantId (name : String) : Asks P ctx (requireTenantId name ctx) := by
  refine .bind asks_noteTenant fun _ => ?_
  split
  · exact keeps_pure _
  · exact .reject fun _ hw => hw

/-- A guard asks before it compares. -/
theorem asks_guardTenant (name : String) (id : String) (violation : String → Exception) :
    Asks P ctx (guardTenant name ctx id violation) := by
  refine .bind (asks_requireTenantId name) fun tenantId => ?_
  split
  · exact .reject fun _ hw => hw
  · exact keeps_pure _

/-- A scoped condition asks, whatever is spread over it. -/
theorem asks_scopedWhere (name : String) (extra : FindOptionsWhere) :
    Asks P ctx (scopedWhere name ctx extra) :=
  .bind (asks_requireTenantId name) fun _ => keeps_pure _

/-- The bus asks for no tenant: the event names its own. -/
theorem keeps_publish (server : Server) (event : TenantAwareEvent) :
    Keeps P (server.publish event) :=
  .bind (keeps_modify fun _ => rfl) fun _ => keeps_lift _

theorem keeps_publishAll (server : Server) (eventType : String) (events : List DomainEvent) :
    Keeps P (publishAll server.publish eventType events) := by
  induction events with
  | nil => exact keeps_pure ()
  | cons event events ih => exact .bind (keeps_publish server _) fun _ => ih

end Record

/-! ## Repositories and handlers -/

section Handlers

variable {P : List (Option String) → Prop} {ctx : Option String}

/-- An organization is looked up behind the guard of the root. -/
theorem asks_findOrganization (id : String) :
    Asks P ctx (OrganizationRepository.findById ctx id) := by
  refine .bind (asks_guardTenant _ _ _) fun _ => .bind (keeps_uuidParameter id) fun _ =>
    .bind (keeps_gets _) fun orm => ?_
  cases orm with
  | some orm => exact .bind (keeps_lift _) fun _ => keeps_pure _
  | none => exact keeps_pure none

theorem keeps_saveOrganizationOrm (savedAt : Js.Date) (orm : OrganizationOrmEntity) :
    Keeps P (OrganizationRepository.saveOrm savedAt orm) :=
  .bind (keeps_gets _) fun _ => .bind (keeps_written _) fun _ =>
    .bind (keeps_modify fun _ => rfl) fun _ => keeps_pure _

/-- A save of an organization is guarded, which asks for the tenant. -/
theorem asks_saveOrganization (savedAt : Js.Date) (organization : OrganizationAggregate) :
    Asks P ctx (OrganizationRepository.save ctx savedAt organization) :=
  .bind (asks_guardTenant _ _ _) fun _ => .bind (keeps_saveOrganizationOrm _ _) fun _ =>
    keeps_lift _

/-- An execution is looked up under a scoped condition. -/
theorem asks_findExecution (loadedAt : Js.Date) (id : String) :
    Asks P ctx (WorkflowExecutionRepository.findById ctx loadedAt id) :=
  .bind (asks_scopedWhere _ _) fun _ => .bind (keeps_findOne _ _ _ _) fun _ => keeps_pure _

/-- A save of an execution is guarded, which asks for the tenant. -/
theorem asks_saveExecution (rt : Runtime) (execution : WorkflowExecutionEntity) :
    Asks P ctx (WorkflowExecutionRepository.save ctx rt execution) :=
  .bind (asks_guardTenant _ _ _) fun _ =>
    .bind (keeps_saveOrm WorkflowExecutionRepository.table (fun _ _ => rfl) _ _) fun _ =>
      keeps_pure _

/-- A creation uses the repository of the system, which asks for no tenant. -/
theorem keeps_create (server : Server) (command : CreateOrganizationCommand) :
    Keeps P (CreateOrganizationHandler.execute server.publish server.rt command) := by
  refine .bind (.bind (keeps_written _) fun _ => keeps_gets _) fun slugExists => ?_
  split
  · exact keeps_pure _
  · exact .bind (keeps_lift _) fun organization =>
      .bind (.bind (keeps_saveOrganizationOrm _ _) fun _ => keeps_lift _) fun saved =>
        .bind (keeps_publishAll server _ _) fun _ => keeps_pure _

/-- An update asks twice, to find and to save. -/
theorem asks_update (hP : ∀ record, P record → P (record ++ [ctx])) (rt : Runtime)
    (command : UpdateOrganizationCommand) :
    Asks P ctx (UpdateOrganizationHandler.execute ctx rt command) := by
  refine .bind (asks_findOrganization _) fun organization => ?_
  cases organization with
  | none => exact keeps_pure _
  | some organization =>
      exact .bind (keeps_lift _) fun _ =>
        .bind (keeps_of_asks hP (asks_saveOrganization _ _)) fun _ => keeps_pure _

/-- A suspension asks twice, to find and to save. -/
theorem asks_suspend (hP : ∀ record, P record → P (record ++ [ctx])) (server : Server)
    (command : SuspendOrganizationCommand) :
    Asks P ctx (SuspendOrganizationHandler.execute server.publish ctx server.rt command) := by
  refine .bind (asks_findOrganization _) fun organization => ?_
  cases organization with
  | none => exact keeps_pure _
  | some organization =>
      exact .bind (keeps_lift _) fun _ =>
        .bind (keeps_of_asks hP (asks_saveOrganization _ _)) fun saved =>
          .bind (keeps_publishAll server _ _) fun _ => keeps_pure _

/-- A cancellation asks twice, to find and to save. -/
theorem asks_cancel (hP : ∀ record, P record → P (record ++ [ctx])) (rt : Runtime)
    (command : CancelWorkflowExecutionCommand) :
    Asks P ctx (CancelWorkflowExecutionHandler.execute ctx rt command) := by
  refine .bind (asks_findExecution _ _) fun execution => ?_
  cases execution with
  | none => exact keeps_pure _
  | some execution =>
      exact .bind (keeps_lift _) fun _ =>
        .bind (keeps_of_asks hP (asks_saveExecution _ _)) fun _ => keeps_pure _

/-- Reading an execution asks once. -/
theorem asks_get (rt : Runtime) (query : GetWorkflowExecutionQuery) :
    Asks P ctx (GetWorkflowExecutionHandler.execute ctx rt query) := by
  refine .bind (asks_findExecution _ _) fun execution => ?_
  cases execution with
  | none => exact keeps_pure _
  | some execution => exact keeps_pure _

/-- A list of executions is scoped by a guard. -/
theorem asks_list (ties : Typeorm.Arrangement WorkflowExecutionOrmEntity) (rt : Runtime)
    (query : ListWorkflowExecutionsQuery) :
    Asks P ctx (ListWorkflowExecutionsHandler.execute ctx ties rt query) :=
  .bind (.bind (asks_requireTenantId _) fun _ => .bind (keeps_lift _) fun _ =>
    .bind (keeps_uuidParameter _) fun _ => .bind (keeps_getManyAndCount _ _ _ _ _ _ _) fun _ =>
      keeps_pure _) fun _ => keeps_pure _

/-- The audit log is read through a scoped query. -/
theorem asks_queryAudit (ties : Typeorm.Arrangement AuditEventOrmEntity)
    (filter : AuditEventRepository.AuditEventFilter) (options : PaginationOptions) :
    Asks P ctx (AuditEventRepository.query ctx ties filter options) :=
  .bind (asks_requireTenantId _) fun _ => .bind (keeps_lift _) fun _ =>
    .bind (keeps_uuidParameter _) fun _ => .bind (keeps_columnParameter _) fun _ =>
      .bind (keeps_written _) fun _ => .bind (keeps_getManyAndCount _ _ _ _ _ _ _) fun _ =>
        keeps_pure _

/-- One event of it is looked up under a scoped condition. -/
theorem asks_findAudit (id : String) : Asks P ctx (AuditEventRepository.findById ctx id) :=
  .bind (asks_scopedWhere _ _) fun _ => .bind (keeps_findOne _ _ _ _) fun _ => keeps_pure _

end Handlers


/-! ## Routes -/

/- A route is a composition of the above.  `record_of_asks` turns the rule for its handler
into a value: the record is the tenant of the context, once or more. -/

section Routes

variable {P : List (Option String) → Prop} {ctx : Option TenantContext} {α β : Type}

/-- A change of the answer keeps what the program keeps. -/
theorem keeps_map {m : App α} (f : α → β) (h : Keeps P m) : Keeps P (f <$> m) :=
  .bind h fun _ => keeps_pure _

/-- A change of the answer asks where the program does. -/
theorem asks_map {x : Option String} {m : App α} (f : α → β) (h : Asks P x m) :
    Asks P x (f <$> m) :=
  .bind h fun _ => keeps_pure _

/-- Throwing the error of a result asks for no tenant. -/
theorem keeps_valueOrThrow {execute : App (Result α)} (h : Keeps P execute) :
    Keeps P (valueOrThrow execute) :=
  .bind h fun _ => keeps_lift _

/-- Throwing the error of a result asks where the program does. -/
theorem asks_valueOrThrow {x : Option String} {execute : App (Result α)} (h : Asks P x execute) :
    Asks P x (valueOrThrow execute) :=
  .bind h fun _ => keeps_lift _

/-- The queries of the dashboard are given the tenant as a value. -/
theorem keeps_getCount {ρ : Type} (rows : World → List ρ) (rowTenantId : ρ → String)
    (tenantId : String) (instants : List Js.Date) (condition : ρ → Bool) :
    Keeps P (getCount rows rowTenantId tenantId instants condition) :=
  .bind (keeps_uuidParameter _) fun _ => .bind (keeps_written _) fun _ => keeps_gets _

theorem keeps_daysOf {ρ : Type} (columns : List String) (dayColumn : String)
    (rows : World → List ρ) (rowTenantId : ρ → String) (date : ρ → Option Js.Date)
    (condition : ρ → Bool) (tenantId : String) (start : Js.Date) :
    Keeps P (GetEventSeriesHandler.daysOf columns dayColumn rows rowTenantId date condition
      tenantId start) :=
  .bind (keeps_written _) fun _ => .bind (keeps_uuidParameter _) fun _ =>
    .bind (keeps_written _) fun _ => keeps_gets _

theorem keeps_getContext : Keeps P (TenantContextService.getContext ctx) := by
  cases ctx with
  | some context => exact keeps_pure context
  | none => exact .reject fun _ hw => hw

/-- `tenantId` reads the context, or throws where there is none. -/
theorem asks_tenantId :
    Asks P (TenantContextService.tryGetTenantId ctx) (TenantContextService.tenantId ctx) :=
  .bind asks_noteTenant fun _ => .bind keeps_getContext fun _ => keeps_pure _

theorem asks_query :
    Asks P (TenantContextService.tryGetTenantId ctx) (DashboardController.query ctx) :=
  .bind asks_tenantId fun _ =>
    .bind (.bind keeps_getContext fun _ => keeps_pure _) fun _ => keeps_pure _

/-- The metrics are those of the tenant of the context. -/
theorem asks_metrics
    (hP : ∀ record, P record → P (record ++ [TenantContextService.tryGetTenantId ctx]))
    (server : Server) :
    Asks P (TenantContextService.tryGetTenantId ctx) (DashboardController.metrics server ctx) :=
  .bind asks_query fun _ => .bind (keeps_of_asks hP asks_tenantId) fun _ =>
    .bind (keeps_getCount _ _ _ _ _) fun _ => .bind (keeps_getCount _ _ _ _ _) fun _ =>
    .bind (keeps_getCount _ _ _ _ _) fun _ => .bind (keeps_getCount _ _ _ _ _) fun _ =>
    .bind (keeps_gets _) fun _ => .bind (keeps_getCount _ _ _ _ _) fun _ =>
    .bind (keeps_getCount _ _ _ _ _) fun _ => keeps_pure _

/-- The series of events is that of the tenant of the context. -/
theorem asks_eventSeries
    (hP : ∀ record, P record → P (record ++ [TenantContextService.tryGetTenantId ctx]))
    (server : Server) :
    Asks P (TenantContextService.tryGetTenantId ctx)
      (DashboardController.eventSeries server ctx) :=
  .bind asks_query fun _ => .bind (keeps_of_asks hP asks_tenantId) fun _ =>
    .bind (keeps_daysOf _ _ _ _ _ _ _ _) fun _ => .bind (keeps_daysOf _ _ _ _ _ _ _ _) fun _ =>
      keeps_pure _

/-- A method that asks for the tenant of the context records it, at least
once. -/
theorem record_of_asks {x y : Option String} {m : App α} (hx : x = y) (w : World)
    (h : ∀ P : List (Option String) → Prop, (∀ record, P record → P (record ++ [x])) →
      Asks P x m) :
    ∃ record, (m.run w).2.tenants = w.tenants ++ record ∧
      ∃ n, record = List.replicate (n + 1) y := by
  subst hx
  have hclosed : ∀ record, (∃ n, record = w.tenants ++ List.replicate (n + 1) x) →
      ∃ n, record ++ [x] = w.tenants ++ List.replicate (n + 1) x := by
    rintro record ⟨n, rfl⟩
    exact ⟨n + 1, by rw [List.append_assoc, ← List.replicate_succ']⟩
  obtain ⟨n, hn⟩ := (h _ hclosed).store ⟨0, rfl⟩
  exact ⟨_, hn, n, rfl⟩

/-- A method behind `@TenantId()` records what the decorator was given besides. -/
theorem record_of_decorated {x : Option String} (headers : Headers) (user : JwtPayload)
    {m : String → App α} (f : α → β) (hx : x = headers.xTenantId) (w : World)
    (h : ∀ tenantId, ∀ P : List (Option String) → Prop,
      (∀ record, P record → P (record ++ [x])) → Asks P x (m tenantId)) :
    ∃ record, ((f <$> (TenantId.resolve headers user >>= m)).run w).2.tenants =
        w.tenants ++ record ∧
      ∃ n, record = [some (headers.xTenantId.getD user.tenantId)] ++
        List.replicate (n + 1) headers.xTenantId := by
  obtain ⟨record, hrun, n, rfl⟩ :=
    record_of_asks (m := f <$> m (headers.xTenantId.getD user.tenantId)) hx
      (w.noting (some (headers.xTenantId.getD user.tenantId)))
      fun P hP => asks_map f (h _ P hP)
  refine ⟨_, ?_, n, rfl⟩
  rw [← List.append_assoc]
  exact hrun

end Routes

/-- The record of a route: nothing, what `@TenantId()` was given, or besides
that the header for each operation. -/
def Route.Records (route : Route) (headers : Headers) (user : JwtPayload) :
    List (Option String) → Prop :=
  let decorated := some (headers.xTenantId.getD user.tenantId)
  match route with
  | .createOrganization _ => fun record => record = []
  | .getOrganization _ => fun record => record = [decorated]
  | .getAuditEvents _ | .getAuditEvent _ | .metrics | .eventSeries =>
      fun record => ∃ n, record = List.replicate (n + 1) headers.xTenantId
  | .updateOrganization _ _ | .suspendOrganization _ _ | .listExecutions _ | .getExecution _
  | .cancelExecution _ _ =>
      fun record => ∃ n, record = [decorated] ++ List.replicate (n + 1) headers.xTenantId

/-- **What a route records**: the tenants it asks for are those that `Route.Records`
lists. -/
theorem dispatch_records (server : Server) (headers : Headers) (ctx : Option TenantContext)
    (user : JwtPayload) (route : Route) (w : World)
    (hctx : TenantContextService.tryGetTenantId ctx = headers.xTenantId) :
    ∃ record, ((dispatch server headers ctx user route).run w).2.tenants = w.tenants ++ record ∧
      route.Records headers user record := by
  cases route with
  | createOrganization body =>
      have hkeeps : Keeps (fun record => record = w.tenants)
          (Response.organization <$> TenantCoreController.createOrganization server user body) :=
        keeps_map _ (keeps_valueOrThrow (keeps_create server _))
      exact ⟨[], by rw [List.append_nil]; exact hkeeps.store rfl, rfl⟩
  | getOrganization id => exact ⟨_, rfl, rfl⟩
  | updateOrganization id body =>
      exact record_of_decorated headers user Response.organization hctx w
        fun _ P hP => asks_valueOrThrow (asks_update hP _ _)
  | suspendOrganization id body =>
      exact record_of_decorated headers user Response.organization hctx w
        fun _ P hP => asks_valueOrThrow (asks_suspend hP _ _)
  | listExecutions params =>
      exact record_of_decorated headers user Response.executions hctx w
        fun _ P _ => asks_valueOrThrow (asks_list _ _ _)
  | getExecution id =>
      exact record_of_decorated headers user Response.execution hctx w
        fun _ P _ => asks_valueOrThrow (asks_get _ _)
  | cancelExecution id body =>
      exact record_of_decorated headers user Response.execution hctx w
        fun _ P hP => asks_valueOrThrow (asks_cancel hP _ _)
  | getAuditEvents params =>
      exact record_of_asks hctx w fun P _ => asks_map Response.auditEvents (asks_queryAudit _ _ _)
  | getAuditEvent id =>
      exact record_of_asks hctx w fun P _ => asks_map Response.auditEvent (asks_findAudit _)
  | metrics =>
      exact record_of_asks hctx w fun P hP => asks_map Response.metrics (asks_metrics hP server)
  | eventSeries =>
      exact record_of_asks hctx w fun P hP => asks_map Response.eventSeries (asks_eventSeries hP server)

/-! ## Requests -/

/- The context comes from the header and the guards from the token, so the two are
compared at the end only: `recorded_records` gives the record of a request, and
`records_agree` says when it names one tenant. -/

/-- The tenants that the operations of a request and its `@TenantId()` were
given. -/
def Server.recorded (server : Server) (request : Request) (w : World) : List (Option String) :=
  ((server.handle request).run w).2.tenants.drop w.tenants.length

/-- A request that passes the guards is handled for the tenant of its token. -/
def Server.TenantBound (server : Server) (request : Request) (w : World) : Prop :=
  ∀ user, request.authorize = .ok user →
    ∀ tenant ∈ server.recorded request w, tenant = some user.tenantId

/-- The header says what the token says, where the route looks at it. -/
def Route.HeaderAgrees (route : Route) (xTenantId : Option String) (tenantId : String) : Prop :=
  match route with
  | .createOrganization _ => True
  | .getOrganization _ => xTenantId = none ∨ xTenantId = some tenantId
  | _ => xTenantId = some tenantId

/-- The same request under another `x-tenant-id` header. -/
def Request.withTenantHeader (request : Request) (xTenantId : Option String) : Request :=
  { request with headers := { request.headers with xTenantId } }

section Requests

variable {server : Server} {request : Request} {user : JwtPayload} {w : World}

/-- A request that the guards and the validation pipe let in reaches its method. -/
theorem handle_run (hauthorize : request.authorize = .ok user)
    (hvalidate : request.validate = .ok ()) :
    (server.handle request).run w = (dispatch server request.headers
      (TenantContextMiddleware.use server.contextCorrelationId request.headers) user
      request.route).run w := by
  have huser : (Program.lift request.authorize : App JwtPayload).run w = (.ok user, w) := by
    rw [lift_run, hauthorize]
  have hvalid : (Program.lift request.validate : App Unit).run w = (.ok (), w) := by
    rw [lift_run, hvalidate]
  rw [Server.handle, bind_run_ok huser, bind_run_ok hvalid]

/-- A request that the guards or the pipe turn away does nothing. -/
theorem handle_run_error {e : Exception} (h : request.authorize = .error e ∨
    request.authorize = .ok user ∧ request.validate = .error e) :
    (server.handle request).run w = (.error e, w) := by
  rcases h with hauthorize | ⟨hauthorize, hvalidate⟩
  · have huser : (Program.lift request.authorize : App JwtPayload).run w = (.error e, w) := by
      rw [lift_run, hauthorize]
    rw [Server.handle, bind_run_error huser]
  · have huser : (Program.lift request.authorize : App JwtPayload).run w = (.ok user, w) := by
      rw [lift_run, hauthorize]
    have hinvalid : (Program.lift request.validate : App Unit).run w = (.error e, w) := by
      rw [lift_run, hvalidate]
    rw [Server.handle, bind_run_ok huser, bind_run_error hinvalid]

/-- What such a request asks for is what its route says. -/
theorem recorded_records (hauthorize : request.authorize = .ok user)
    (hvalidate : request.validate = .ok ()) :
    request.route.Records request.headers user (server.recorded request w) := by
  obtain ⟨record, hrun, hrecords⟩ := dispatch_records server request.headers
    (TenantContextMiddleware.use server.contextCorrelationId request.headers) user request.route w
    (TenantContextMiddleware.tryGetTenantId_use _ _)
  rw [Server.recorded, handle_run hauthorize hvalidate, hrun, List.drop_left]
  exact hrecords

/-- A request that fails in the validation pipe asks for nothing. -/
theorem recorded_eq_nil {e : Exception} (hauthorize : request.authorize = .ok user)
    (hvalidate : request.validate = .error e) : server.recorded request w = [] := by
  rw [Server.recorded, handle_run_error (.inr ⟨hauthorize, hvalidate⟩), List.drop_length]

/-- A record names one tenant only if the header does. -/
theorem records_agree {route : Route} {headers : Headers} {record : List (Option String)}
    (h : route.Records headers user record) :
    (∀ tenant ∈ record, tenant = some user.tenantId) ↔
      route.HeaderAgrees headers.xTenantId user.tenantId := by
  have hheader : ∀ {n : Nat}, (∀ tenant ∈ List.replicate (n + 1) headers.xTenantId,
      tenant = some user.tenantId) ↔ headers.xTenantId = some user.tenantId := by
    intro n
    simp
  have hboth : ∀ {n : Nat}, (∀ tenant ∈ [some (headers.xTenantId.getD user.tenantId)] ++
      List.replicate (n + 1) headers.xTenantId, tenant = some user.tenantId) ↔
        headers.xTenantId = some user.tenantId := by
    intro n
    rw [List.forall_mem_append, hheader]
    constructor
    · exact fun h => h.2
    · intro h
      simp [h]
  cases route with
  | createOrganization body =>
      obtain rfl : record = [] := h
      simp [Route.HeaderAgrees]
  | getOrganization id =>
      obtain rfl : record = [some (headers.xTenantId.getD user.tenantId)] := h
      cases hx : headers.xTenantId with
      | none => simp [Route.HeaderAgrees]
      | some tenantId => simp [Route.HeaderAgrees]
  | updateOrganization id body =>
      obtain ⟨n, rfl⟩ := h
      exact hboth
  | suspendOrganization id body =>
      obtain ⟨n, rfl⟩ := h
      exact hboth
  | listExecutions params =>
      obtain ⟨n, rfl⟩ := h
      exact hboth
  | getExecution id =>
      obtain ⟨n, rfl⟩ := h
      exact hboth
  | cancelExecution id body =>
      obtain ⟨n, rfl⟩ := h
      exact hboth
  | getAuditEvents params =>
      obtain ⟨n, rfl⟩ := h
      exact hheader
  | getAuditEvent id =>
      obtain ⟨n, rfl⟩ := h
      exact hheader
  | metrics =>
      obtain ⟨n, rfl⟩ := h
      exact hheader
  | eventSeries =>
      obtain ⟨n, rfl⟩ := h
      exact hheader

/-- Where both headers say what the token says, nothing else of them is looked
at. -/
theorem dispatch_agree {headers : Headers} {ctx ctx' : Option TenantContext} {route : Route}
    {other : Option String} (hctx : other = headers.xTenantId → ctx' = ctx)
    (h : route.HeaderAgrees headers.xTenantId user.tenantId)
    (hother : route.HeaderAgrees other user.tenantId) :
    (dispatch server { headers with xTenantId := other } ctx' user route).run w =
      (dispatch server headers ctx user route).run w := by
  have hsame : other = headers.xTenantId →
      (dispatch server { headers with xTenantId := other } ctx' user route).run w =
        (dispatch server headers ctx user route).run w := by
    intro heq
    rw [hctx heq, heq]
  cases route with
  | createOrganization body => rfl
  | getOrganization id =>
      have hresolve : TenantId.resolve { headers with xTenantId := other } user =
          TenantId.resolve headers user := by
        have hvalue : other.getD user.tenantId = headers.xTenantId.getD user.tenantId := by
          rcases h with h | h <;> rcases hother with hother | hother <;> simp [h, hother]
        simp only [TenantId.resolve, hvalue]
      simp only [dispatch, TenantCoreController.getOrganization, hresolve]
  | updateOrganization id body => exact hsame (hother.trans h.symm)
  | suspendOrganization id body => exact hsame (hother.trans h.symm)
  | listExecutions params => exact hsame (hother.trans h.symm)
  | getExecution id => exact hsame (hother.trans h.symm)
  | cancelExecution id body => exact hsame (hother.trans h.symm)
  | getAuditEvents params => exact hsame (hother.trans h.symm)
  | getAuditEvent id => exact hsame (hother.trans h.symm)
  | metrics => exact hsame (hother.trans h.symm)
  | eventSeries => exact hsame (hother.trans h.symm)

end Requests

/-- **The tenant of a request** is that of its token exactly when the header
says so where the route looks at it; and of two requests that differ in a
header that does, both are answered alike and leave the same rows. -/
theorem tenant_binding (server : Server) (request : Request) (w : World) :
    (server.TenantBound request w ↔
      ∀ user, request.authorize = .ok user → request.validate = .ok () →
        request.route.HeaderAgrees request.headers.xTenantId user.tenantId) ∧
    ∀ user other, request.authorize = .ok user →
      request.route.HeaderAgrees request.headers.xTenantId user.tenantId →
      request.route.HeaderAgrees other user.tenantId →
      (server.handle (request.withTenantHeader other)).run w =
        (server.handle request).run w := by
  constructor
  · refine forall₂_congr fun user hauthorize => ?_
    cases hvalidate : request.validate with
    | error e =>
        rw [recorded_eq_nil hauthorize hvalidate]
        simp
    | ok =>
        rw [records_agree (recorded_records hauthorize hvalidate)]
        simp
  · intro user other hauthorize h hother
    cases hvalidate : request.validate with
    | error e =>
        rw [handle_run_error (.inr ⟨hauthorize, hvalidate⟩)]
        exact handle_run_error (.inr ⟨hauthorize, hvalidate⟩)
    | ok =>
        rw [handle_run hauthorize hvalidate]
        have hrun := @handle_run server (request.withTenantHeader other) user w hauthorize hvalidate
        refine hrun.trans (dispatch_agree (fun heq => ?_) h hother)
        rw [Request.withTenantHeader, heq]

/-! ## The header of another tenant -/

/-- An owner of tenant 1 asks for an execution of tenant 3, under the header of
tenant 3. -/
def foreignRequest : Request where
  headers := ⟨some (Pg.uuidOf 3), none⟩
  token := some ⟨Pg.uuidOf 2, none, Pg.uuidOf 1, some "owner", .access⟩
  route := .getExecution (Pg.uuidOf 5)
  invalid := none

def sampleServer : Server where
  rt := sampleRuntime
  bus := .ok ()
  contextCorrelationId := Pg.uuidOf 12
  requestCorrelationId := Pg.uuidOf 13
  commandCorrelationId := Pg.uuidOf 14
  executionTies := ⟨id, fun _ => .refl _⟩
  auditTies := ⟨id, fun _ => .refl _⟩
  percentChange := fun _ _ => 0

/-- The execution that a response shows. -/
def Response.execution? : Except Exception Response → Option String
  | .ok (.execution dto) => some dto.executionId
  | _ => none

/-- The request is answered with the row of tenant 3; under the header of its
own tenant it is not. -/
theorem header_reads_other_tenant :
    (¬ ∀ (server : Server) (request : Request) (w : World), server.TenantBound request w) ∧
    ¬ ∀ (server : Server) (request : Request) (w : World) (other : Option String),
      ((server.handle (request.withTenantHeader other)).run w).1 =
        ((server.handle request).run w).1 := by
  constructor
  · intro hclaim
    have htenant := hclaim sampleServer foreignRequest sampleWorkflows _ rfl (some (Pg.uuidOf 3))
      (by decide +kernel)
    exact absurd htenant (by decide +kernel)
  · intro hclaim
    have hsame := hclaim sampleServer foreignRequest sampleWorkflows (some (Pg.uuidOf 1))
    have hshown := congrArg Response.execution? hsame
    revert hshown
    decide +kernel

end Atlas
