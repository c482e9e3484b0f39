import Atlas.Requests.Routes

/-!
# Atlas.Requests.Serve

Every request to the API is sound between the steps of others, and what the
response says of the database holds of it.
-/

namespace Atlas

open StoreKit StoreKit.Program TenantAwareRepository

/-! ## What is answered -/

/-- What the response of a route says of the database. -/
def Route.Holds (server : Server) (user : JwtPayload) (route : Route) (response : Response)
    (w : World) : Prop :=
  match route with
  | .createOrganization body => ∃ dto, response = .organization dto ∧
      Created server.rt (TenantCoreController.createOrganizationCommand server user body) dto w
  | .updateOrganization id _ => ∃ dto, response = .organization dto ∧ Known id dto w
  | .suspendOrganization id _ => ∃ dto, response = .organization dto ∧ Known id dto w
  | .cancelExecution id _ => ∃ dto, response = .execution dto ∧ Cancelled id dto w
  | _ => True

variable {Token : Type}

/-- What a response says of the database, where that was `w₀` at first. -/
def ApiServer.Holds (api : ApiServer Token) (w₀ : World) (request : ApiRequest)
    (response : ApiResponse Token) (w : World) : Prop :=
  match request with
  | .register _ body _ => ∃ result, response = .registered result ∧
      Registered api.rt (IdentityController.registerCommand api body) result w
  | .login _ body _ => ∃ pair, response = .tokens pair ∧
      Granted api.bcryptCompare api.sign (IdentityController.loginCommand api body) w₀ pair w
  | .guarded request => ∃ user answer, request.authorize = .ok user ∧
      response = .guarded answer ∧ request.route.Holds api.toServer user answer w

/-- What a route has answered goes on to hold. -/
theorem Route.Holds.evolves {moving : String → Prop} {server : Server} {user : JwtPayload}
    {route : Route} {response : Response} {w w' : World}
    (h : route.Holds server user response w) (hw : w.Evolves moving w') :
    route.Holds server user response w' := by
  cases route with
  | createOrganization body =>
      obtain ⟨dto, hresponse, hdto⟩ := h
      exact ⟨dto, hresponse, hdto.evolves hw⟩
  | updateOrganization id body =>
      obtain ⟨dto, hresponse, hdto⟩ := h
      exact ⟨dto, hresponse, hdto.evolves hw⟩
  | suspendOrganization id body =>
      obtain ⟨dto, hresponse, hdto⟩ := h
      exact ⟨dto, hresponse, hdto.evolves hw⟩
  | cancelExecution id body =>
      obtain ⟨dto, hresponse, hdto⟩ := h
      exact ⟨dto, hresponse, hdto.evolves hw⟩
  | getOrganization id => trivial
  | listExecutions params => trivial
  | getExecution id => trivial
  | getAuditEvents params => trivial
  | getAuditEvent id => trivial
  | metrics => trivial
  | eventSeries => trivial

/-- Later requests take nothing back. -/
theorem ApiServer.Holds.evolves {moving : String → Prop} {api : ApiServer Token}
    {w₀ w w' : World} {request : ApiRequest} {response : ApiResponse Token}
    (h : api.Holds w₀ request response w) (hw : w.Evolves moving w') :
    api.Holds w₀ request response w' := by
  cases request with
  | register headers body invalid =>
      obtain ⟨result, hresult, hregistered⟩ := h
      exact ⟨result, hresult, hregistered.evolves hw⟩
  | login headers body invalid => exact h
  | guarded request =>
      obtain ⟨user, inner, huser, hinner, hroute⟩ := h
      exact ⟨user, inner, huser, hinner, hroute.evolves hw⟩

/-! ## Methods -/

section Sound

variable {moving : String → Prop} {id : String} {w : World}

/-- The error of a result is thrown, its value is answered. -/
theorem sound_valueOrThrow {α : Type} {P : α → World → Prop} {t : Handler (Result α)}
    (h : Sound moving id (IfOk P) (fun _ _ => True) t w) :
    Sound moving id P (fun _ _ => True) (valueOrThrowSteps t) w := by
  refine Thread.Sound.bind (h.weaken (fun result w' hresult => ?_) fun _ _ _ => trivial)
  refine Thread.Sound.lift (fun a ha => ?_) fun _ _ => trivial
  rw [ha] at hresult
  exact hresult

/-- A method that is given the tenant of the request. -/
theorem sound_resolved {α : Type} {headers : Headers} {user : JwtPayload} {P : α → World → Prop}
    {execute : String → Handler (Result α)}
    (h : ∀ tenantId w', w.Spares moving id w' →
      Sound moving id (IfOk P) (fun _ _ => True) (execute tenantId) w') :
    Sound moving id P (fun _ _ => True) (Thread.call (TenantId.resolve headers user) >>=
      fun tenantId => valueOrThrowSteps (execute tenantId)) w := by
  have hreads : Reads (TenantId.resolve headers user) :=
    .bind (.modify fun _ => rfl) fun _ => .pure _
  refine sound_read hreads (fun tenantId w₁ w₂ _ hspares hsame _ => ?_) fun _ _ => trivial
  exact sound_valueOrThrow (h tenantId w₂ (hspares.trans (hsame.spares moving id)))

/-- The context is a value of the request. -/
theorem reads_getContext (ctx : Option TenantContext) :
    Reads (TenantContextService.getContext ctx) := by
  cases ctx with
  | some context => exact .pure context
  | none => exact .reject _

theorem reads_tenantId (ctx : Option TenantContext) : Reads (TenantContextService.tenantId ctx) :=
  .bind (.modify fun _ => rfl) fun _ => .bind (reads_getContext ctx) fun _ => .pure _

theorem reads_query (ctx : Option TenantContext) : Reads (DashboardController.query ctx) :=
  .bind (reads_tenantId ctx) fun _ =>
    .bind (.bind (reads_getContext ctx) fun _ => .pure _) fun _ => .pure _

/-- A count reads the table. -/
theorem reads_getCount {ρ : Type} (rows : World → List ρ) (rowTenantId : ρ → String)
    (tenantId : String) (instants : List Js.Date) (condition : ρ → Bool) :
    Reads (getCount rows rowTenantId tenantId instants condition) :=
  .bind (leaves_uuidParameter _) fun _ => .bind (leaves_written _) fun _ => .gets _

/-- The days of a series are read, as far as their column exists. -/
theorem reads_daysOf {ρ : Type} (columns : List String) (dayColumn : String)
    (rows : World → List ρ) (rowTenantId : ρ → String) (date : ρ → Option Js.Date)
    (condition : ρ → Bool) (tenantId : String) (start : Js.Date) :
    Reads (GetEventSeriesHandler.daysOf columns dayColumn rows rowTenantId date condition
      tenantId start) :=
  .bind (leaves_written _) fun _ => .bind (leaves_uuidParameter _) fun _ =>
    .bind (leaves_written _) fun _ => .gets _

/-- A step that only reads, with more to come. -/
theorem safe_read {α β : Type} {m : App β} {f : β → Handler α} (hm : Reads m)
    (hf : ∀ b w', Safe moving id (f b) w') : Safe moving id (Thread.call m >>= f) w :=
  sound_read hm (fun b _ w' _ _ _ _ => hf b w') fun _ _ => trivial

/-- The metrics are safe beside any other request. -/
theorem safe_metrics (server : Server) (ctx : Option TenantContext) :
    Safe moving id (DashboardController.metricsSteps server ctx) w := by
  refine safe_read (reads_query ctx) fun _ _ => safe_read (reads_tenantId ctx) fun _ _ => ?_
  refine safe_read (reads_getCount _ _ _ _ _) fun _ _ =>
    safe_read (reads_getCount _ _ _ _ _) fun _ _ =>
    safe_read (reads_getCount _ _ _ _ _) fun _ _ =>
    safe_read (reads_getCount _ _ _ _ _) fun _ _ => safe_read (.gets _) fun _ _ =>
    safe_read (reads_getCount _ _ _ _ _) fun _ _ =>
    safe_read (reads_getCount _ _ _ _ _) fun _ _ => safe_pure _ _ _

/-- The series of events is safe beside any other request. -/
theorem safe_eventSeries (server : Server) (ctx : Option TenantContext) :
    Safe moving id (DashboardController.eventSeriesSteps server ctx) w := by
  refine safe_read (reads_query ctx) fun _ _ => safe_read (reads_tenantId ctx) fun _ _ => ?_
  exact safe_read (reads_daysOf _ _ _ _ _ _ _ _) fun _ _ =>
    safe_read (reads_daysOf _ _ _ _ _ _ _ _) fun _ _ => safe_pure _ _ _

/-- A change of the answer reads what the program does. -/
theorem reads_map {α β : Type} {m : App α} (f : α → β) (hm : Reads m) : Reads (f <$> m) :=
  .bind hm fun _ => .pure _

/-- The tenant of the request is resolved before anything is read. -/
theorem reads_resolved {α : Type} {headers : Headers} {user : JwtPayload} {f : String → App α}
    (hf : ∀ tenantId, Reads (f tenantId)) :
    Reads (TenantId.resolve headers user >>= f) :=
  .bind (.bind (.modify fun _ => rfl) fun _ => .pure _) hf

/-- The routes that are one step only read. -/
theorem reads_listExecutions (server : Server) (headers : Headers) (ctx : Option TenantContext)
    (user : JwtPayload) (params : ListExecutionsQueryParams) :
    Reads (WorkflowController.listExecutions server headers ctx user params) :=
  reads_resolved fun _ => .bind (reads_listWorkflowExecutions _ _ _ _) fun _ => .lift _

/-- Reading an execution over HTTP reads only. -/
theorem reads_getExecution (server : Server) (headers : Headers) (ctx : Option TenantContext)
    (user : JwtPayload) (executionId : String) :
    Reads (WorkflowController.getExecution server headers ctx user executionId) :=
  reads_resolved fun _ => .bind (reads_getWorkflowExecution _ _ _) fun _ => .lift _

/-! ## Requests -/

/-- The request is for the suspension of the organization with a key. -/
def ApiRequest.Suspends (request : ApiRequest) (key : String) : Prop :=
  ∃ guarded id body, request = .guarded guarded ∧
    guarded.route = .suspendOrganization id body ∧ Pg.uuid id = some key

/-- Where what is suspended is active, it is one of those that may change
status. -/
def Moves (suspends moving : String → Prop) (w : World) : Prop :=
  ∀ w' org, w.Evolves moving w' → org ∈ w'.organizations.rows → suspends org.id →
    org.status = .ACTIVE → moving org.id

section Serve

variable (api : ApiServer Token)

/-- The bus is safe beside any other request. -/
theorem safe_publish (event : TenantAwareEvent) (w : World) :
    Safe moving id (api.eventBus.steps event) w :=
  safe_bus api.eventBus event id w

/-- **The routes behind the guards are sound**, with an id of their own to insert. -/
theorem sound_guarded (headers : Headers) (ctx : Option TenantContext) (user : JwtPayload)
    (route : Route) (hunused : w.Unused api.rt.generateId)
    (hmoves : ∀ key body, route = .suspendOrganization key body →
      Moves (fun k => Pg.uuid key = some k) moving w) :
    Sound moving api.rt.generateId (route.Holds api.toServer user) (fun _ _ => True)
      (api.guardedSteps headers ctx user route) w := by
  cases route with
  | createOrganization body =>
      have hcreate := @sound_create moving w api.eventBus.steps api.rt
        (TenantCoreController.createOrganizationCommand api.toServer user body)
        (safe_publish api) hunused
      exact Thread.Sound.map ((sound_valueOrThrow hcreate).weaken
        (fun dto _ hdto => ⟨dto, rfl, hdto⟩) fun _ _ _ => trivial)
  | updateOrganization key body =>
      have hupdate : Sound moving api.rt.generateId (Known key) (fun _ _ => True)
          (api.updateOrganizationSteps headers ctx user key body) w :=
        sound_resolved fun tenantId w' _ => sound_update _ api.rt _
          (TenantCoreController.updateOrganizationCommand api.toServer user key body tenantId)
      exact Thread.Sound.map (hupdate.weaken (fun dto _ hdto => ⟨dto, rfl, hdto⟩)
        fun _ _ _ => trivial)
  | suspendOrganization key body =>
      have hsuspend : Sound moving api.rt.generateId (Known key) (fun _ _ => True)
          (api.suspendOrganizationSteps headers ctx user key body) w :=
        sound_resolved fun tenantId w' hspares => sound_suspend api.eventBus.steps _ api.rt _
          (TenantCoreController.suspendOrganizationCommand api.toServer user key body tenantId)
          (safe_publish api) fun w'' org hevolves horg hkey =>
            hmoves key body rfl w'' org (hspares.evolves.trans hevolves) horg hkey
      exact Thread.Sound.map (hsuspend.weaken (fun dto _ hdto => ⟨dto, rfl, hdto⟩)
        fun _ _ _ => trivial)
  | cancelExecution key body =>
      have hcancel : Sound moving api.rt.generateId (Cancelled key) (fun _ _ => True)
          (api.cancelExecutionSteps headers ctx user key body) w :=
        sound_resolved fun tenantId w' _ => sound_cancel _ api.rt _
          (WorkflowController.cancelExecutionCommand api.toServer user key body tenantId)
      exact Thread.Sound.map (hcancel.weaken (fun dto _ hdto => ⟨dto, rfl, hdto⟩)
        fun _ _ _ => trivial)
  | metrics => exact Thread.Sound.map (safe_metrics api.toServer ctx)
  | eventSeries => exact Thread.Sound.map (safe_eventSeries api.toServer ctx)
  | getOrganization key =>
      have hreads : Reads (Atlas.dispatch api.toServer headers ctx user (.getOrganization key)) :=
        .bind (reads_resolved fun _ => .pure _) fun _ => .pure _
      exact sound_program hreads (fun _ _ => trivial) fun _ _ => trivial
  | listExecutions params =>
      exact sound_program (reads_map _ (reads_listExecutions _ _ _ _ params))
        (fun _ _ => trivial) fun _ _ => trivial
  | getExecution key =>
      exact sound_program (reads_map _ (reads_getExecution _ _ _ _ key))
        (fun _ _ => trivial) fun _ _ => trivial
  | getAuditEvents params =>
      exact sound_program (reads_map _ (AuditEventRepository.leaves_query (fun _ _ => rfl) _ _ _ _))
        (fun _ _ => trivial) fun _ _ => trivial
  | getAuditEvent key =>
      exact sound_program (reads_map _ (AuditEventRepository.leaves_findById (fun _ _ => rfl) _ _))
        (fun _ _ => trivial) fun _ _ => trivial

/-- **A request is sound** among others. -/
theorem ApiServer.sound {w₀ : World} (request : ApiRequest) (hw₀ : w₀.Intact)
    (hunused : w₀.Unused api.rt.generateId) (hmoves : Moves request.Suspends moving w₀)
    (hmoving : ∀ org ∈ w₀.organizations.rows, moving org.id → org.status = .ACTIVE) :
    Sound moving api.rt.generateId (api.Holds w₀ request) (fun _ _ => True)
      (api.steps request) w₀ := by
  unfold ApiServer.steps
  refine sound_lift (fun _ _ => sound_lift (fun _ _ => ?_) fun _ _ => trivial) fun _ _ => trivial
  cases request with
  | register headers body invalid =>
      have hregister := @sound_register moving w₀ api.eventBus api.rt api.bcryptHash
        (IdentityController.registerCommand api body) hunused
      exact Thread.Sound.map ((sound_valueOrThrow hregister).weaken
        (fun result _ h => ⟨result, rfl, h⟩) fun _ _ _ => trivial)
  | login headers body invalid =>
      have hlogin := sound_login api.bcryptCompare api.sign api.organizationTies api.rt
        api.rt.generateId (IdentityController.loginCommand api body) hw₀ hmoving
      exact Thread.Sound.map ((sound_valueOrThrow hlogin).weaken
        (fun pair _ h => ⟨pair, rfl, h⟩) fun _ _ _ => trivial)
  | guarded request =>
      refine sound_lift (fun user huser => ?_) fun _ _ => trivial
      have hguarded := sound_guarded api request.headers
        (TenantContextMiddleware.use api.contextCorrelationId request.headers) user request.route
        hunused fun key body hroute w' org hevolves horg hkey =>
          hmoves w' org hevolves horg ⟨request, key, body, rfl, hroute, hkey⟩
      exact Thread.Sound.map (hguarded.weaken
        (fun response _ h => ⟨user, response, huser, rfl, h⟩) fun _ _ _ => trivial)

end Serve

end Sound

end Atlas
