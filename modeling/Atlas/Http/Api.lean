import Atlas.Http.Correlation
import Atlas.PlatformEvents.Forwarding

/-!
# Atlas.Http.Api

The whole API: the routes behind the guards, the two public routes of
`IdentityController`, and what the client is answered where a request fails.

Passport, the guards and the validation pipe throw exceptions of the framework;
`DomainExceptionFilter` answers those of the domain, and the framework itself
everything else.
-/

namespace Atlas

open StoreKit

/-! ## The event bus -/

/-- What `PlatformEventsModule.forRoot` wires `IEventBus` to, and what one
`publish` meets: the answer of the selected adapter, and of the outbox. -/
structure EventBus where
  forwardingEnabled : Bool
  inner : Except Exception Unit
  attempt : OutboxAttempt
  otherDates : String → Option Js.Date

def EventBus.publish (bus : EventBus) (event : TenantAwareEvent) : App Unit :=
  if bus.forwardingEnabled then
    ForwardingEventBus.publish bus.otherDates bus.inner bus.attempt event
  else ForwardingEventBus.innerPublish bus.inner [event]

/-! ## Requests -/

structure RegisterBody where
  email : String
  password : String
  displayName : String
deriving DecidableEq

structure LoginBody where
  email : String
  password : String
  organizationSlug : Option String
deriving DecidableEq

inductive ApiRequest where
  | register (headers : Headers) (body : RegisterBody) (invalid : Option Exception)
  | login (headers : Headers) (body : LoginBody) (invalid : Option Exception)
  | guarded (request : Request)
deriving DecidableEq

inductive ApiResponse (Token : Type) where
  | registered (result : RegisterUserResult)
  | tokens (pair : TokenPair Token)
  | guarded (response : Response)
deriving DecidableEq

/-- What the runtime hands out while a request to the API is handled. -/
structure ApiServer (Token : Type) extends Server where
  eventBus : EventBus
  bcryptHash : String → String
  bcryptCompare : String → String → Bool
  sign : JwtPayload → String → Token
  organizationTies : Typeorm.Arrangement OrganizationOrmEntity

variable {Token : Type} (api : ApiServer Token)

namespace IdentityController

def registerCommand (body : RegisterBody) : RegisterUserCommand where
  email := body.email
  password := body.password
  displayName := body.displayName
  correlationId := api.correlationId none

def register (body : RegisterBody) : App RegisterUserResult :=
  valueOrThrow (RegisterUserHandler.execute api.eventBus.publish api.bcryptHash api.rt
    (registerCommand api body))

def loginCommand (body : LoginBody) : AuthenticateCommand where
  email := body.email
  password := body.password
  organizationSlug := body.organizationSlug
  correlationId := api.correlationId none

def login (body : LoginBody) : App (TokenPair Token) :=
  valueOrThrow (AuthenticateHandler.execute api.bcryptCompare api.sign api.organizationTies api.rt
    (loginCommand api body))

end IdentityController

def ApiRequest.headers : ApiRequest → Headers
  | .register headers _ _ => headers
  | .login headers _ _ => headers
  | .guarded request => request.headers

/-- `@Public()` routes ask for no token. -/
def ApiRequest.authorize : ApiRequest → Except Exception Unit
  | .register _ _ _ => .ok ()
  | .login _ _ _ => .ok ()
  | .guarded request => request.authorize.map fun _ => ()

/-- What the validation pipe objects to. -/
def ApiRequest.invalid : ApiRequest → Option Exception
  | .register _ _ invalid => invalid
  | .login _ _ invalid => invalid
  | .guarded request => request.invalid

/-- The validation pipe. -/
def ApiRequest.validate (request : ApiRequest) : Except Exception Unit :=
  match request.invalid with
  | some violations => .error violations
  | none => .ok ()

namespace ApiServer

section Guarded

variable (headers : Headers) (ctx : Option TenantContext) (user : JwtPayload)

/-- `TenantCoreController.createOrganization`, on the bus of the API. -/
def createOrganization (body : CreateOrganizationBody) : App OrganizationDto :=
  valueOrThrow (CreateOrganizationHandler.execute api.eventBus.publish api.rt
    (TenantCoreController.createOrganizationCommand api.toServer user body))

/-- `TenantCoreController.suspendOrganization`, on the bus of the API. -/
def suspendOrganization (id : String) (body : SuspendOrganizationBody) : App OrganizationDto := do
  let tenantId ← TenantId.resolve headers user
  valueOrThrow (SuspendOrganizationHandler.execute api.eventBus.publish
    (TenantContextService.tryGetTenantId ctx) api.rt
    (TenantCoreController.suspendOrganizationCommand api.toServer user id body tenantId))

/-- The routes behind the guards. -/
def dispatchGuarded : Route → App Response
  | .createOrganization body => Response.organization <$> api.createOrganization user body
  | .suspendOrganization id body =>
      Response.organization <$> api.suspendOrganization headers ctx user id body
  | route => Atlas.dispatch api.toServer headers ctx user route

end Guarded

/-- The method that a request leads to once it is authorized and valid. -/
def dispatch : ApiRequest → App (ApiResponse Token)
  | .register _ body _ => ApiResponse.registered <$> IdentityController.register api body
  | .login _ body _ => ApiResponse.tokens <$> IdentityController.login api body
  | .guarded request => do
      let ctx := TenantContextMiddleware.use api.contextCorrelationId request.headers
      let user ← .lift request.authorize
      ApiResponse.guarded <$> api.dispatchGuarded request.headers ctx user request.route

def serve (request : ApiRequest) : App (ApiResponse Token) := do
  .lift request.authorize
  .lift request.validate
  api.dispatch request

end ApiServer

/-! ## Errors -/

/-- `code` of a domain exception. -/
def Exception.code : Exception → Option String
  | .notFound _ _ => some "NOT_FOUND"
  | .conflict _ => some "CONFLICT"
  | .unauthorized _ => some "UNAUTHORIZED"
  | .forbidden _ => some "FORBIDDEN"
  | .validation _ => some "VALIDATION_ERROR"
  | .error _ => none
  | .database => none

structure ErrorResponse where
  statusCode : Nat
  code : String
  message : String
  correlationId : Option String
  violations : Option (List (String × List String))
deriving DecidableEq

/-- The body of an error answer: the filter's, or one of the framework. -/
inductive ErrorReply where
  | domain (body : ErrorResponse)
  | framework (statusCode : Nat)
deriving DecidableEq

def ErrorReply.statusCode : ErrorReply → Nat
  | .domain body => body.statusCode
  | .framework statusCode => statusCode

namespace DomainExceptionFilter

def resolveHttpStatus : Exception → Nat
  | .notFound _ _ => 404
  | .conflict _ => 409
  | .unauthorized _ => 401
  | .forbidden _ => 403
  | .validation _ => 422
  | _ => 500

def violations : Exception → Option (List (String × List String))
  | .validation violations => some violations
  | _ => none

/-- `catch`; what is no `DomainException` is left to the framework, which answers
an error that it does not know with 500. -/
def reply (correlationId : Option String) (exception : Exception) : ErrorReply :=
  match exception.code, exception.message with
  | some code, some message => .domain {
      statusCode := resolveHttpStatus exception
      code, message, correlationId
      violations := violations exception }
  | _, _ => .framework 500

end DomainExceptionFilter

/-- What the framework answers where a guard throws. -/
def guardReply (exception : Exception) : ErrorReply :=
  .framework (DomainExceptionFilter.resolveHttpStatus exception)

namespace ApiServer

/-- What the client is answered.  Behind the guards the interceptor has set
`request.correlationId`. -/
def reply (request : ApiRequest) (w : World) : Except ErrorReply (ApiResponse Token) × World :=
  match request.authorize with
  | .error exception => (.error (guardReply exception), w)
  | .ok () =>
    match request.validate with
    | .error _ => (.error (.framework 400), w)
    | .ok () =>
      match (api.dispatch request).run w with
      | (.ok response, w') => (.ok response, w')
      | (.error exception, w') =>
        let correlationId :=
          CorrelationIdInterceptor.intercept api.requestCorrelationId request.headers
        (.error (DomainExceptionFilter.reply (some correlationId) exception), w')

end ApiServer

/-! ## What the client reads -/

namespace DomainExceptionFilter

/-- Every exception has an error status. -/
theorem le_resolveHttpStatus (exception : Exception) : 400 ≤ resolveHttpStatus exception := by
  cases exception <;> simp [resolveHttpStatus]

/-- A domain exception is the client's error. -/
theorem resolveHttpStatus_lt {exception : Exception} (h : exception.code ≠ none) :
    resolveHttpStatus exception < 500 := by
  cases exception <;> simp_all [resolveHttpStatus, Exception.code]

/-- Violations are told with the status 422, and with no other. -/
theorem violations_iff (exception : Exception) :
    (violations exception).isSome = true ↔ resolveHttpStatus exception = 422 := by
  cases exception <;> simp [violations, resolveHttpStatus]

/-- Every domain exception has a message. -/
theorem message_of_code {exception : Exception} (h : exception.code ≠ none) :
    exception.message ≠ none := by
  cases exception <;> simp_all [Exception.code, Exception.message]

end DomainExceptionFilter

/-- The body of a domain exception: what it says, and what the status says. -/
structure ErrorResponse.Describes (body : ErrorResponse) (exception : Exception) : Prop where
  code : exception.code = some body.code
  message : exception.message = some body.message
  clientError : body.statusCode < 500
  violations : body.violations.isSome = true ↔ body.statusCode = 422

/-- The filter describes the domain exceptions, and has no body for any other. -/
theorem DomainExceptionFilter.reply_cases (correlationId : Option String) (exception : Exception) :
    (∃ body, reply correlationId exception = .domain body ∧ body.Describes exception ∧
      body.correlationId = correlationId) ∨
    exception.code = none ∧ reply correlationId exception = .framework 500 := by
  cases hcode : exception.code with
  | none => exact .inr ⟨rfl, by rw [reply, hcode]⟩
  | some code =>
      have hdomain : exception.code ≠ none := by rw [hcode]; exact Option.some_ne_none code
      obtain ⟨message, hmessage⟩ := Option.ne_none_iff_exists'.mp (message_of_code hdomain)
      refine .inl ⟨_, by rw [reply, hcode, hmessage], ?_, rfl⟩
      exact ⟨hcode, hmessage, resolveHttpStatus_lt hdomain, violations_iff exception⟩

/-- An error answer to a request that ended with an exception: it has an error
status, and its body describes the exception under the correlation id of the
request. -/
structure ErrorReply.Answers (reply : ErrorReply) (correlationId : String)
    (exception : Exception) : Prop where
  status : 400 ≤ reply.statusCode
  body : ∀ body, reply = .domain body →
    body.Describes exception ∧ body.correlationId = some correlationId

/-- The filter answers every exception with what it is. -/
theorem DomainExceptionFilter.reply_answers (correlationId : String) (exception : Exception) :
    (reply (some correlationId) exception).Answers correlationId exception := by
  rcases reply_cases (some correlationId) exception with
    ⟨body, hreply, hdescribes, hcorrelation⟩ | ⟨-, hreply⟩
  · have hstatus := le_resolveHttpStatus exception
    refine ⟨?_, fun body' hbody => ?_⟩
    · rw [reply] at hreply ⊢
      split
      · exact hstatus
      · decide
    · rw [hreply] at hbody
      cases hbody
      exact ⟨hdescribes, hcorrelation⟩
  · rw [hreply]
    exact ⟨by decide, fun _ hbody => nomatch hbody⟩

/-- An answer of the framework has a status alone. -/
theorem ErrorReply.framework_answers {statusCode : Nat} (h : 400 ≤ statusCode)
    (correlationId : String) (exception : Exception) :
    (ErrorReply.framework statusCode).Answers correlationId exception :=
  ⟨h, fun _ hbody => nomatch hbody⟩

/-- **The client is answered what its request ended with**, in the state it left:
the response, or an error that describes the exception. -/
theorem ApiServer.reply_run (request : ApiRequest) (w : World) :
    match (api.serve request).run w with
    | (.ok response, w') => api.reply request w = (.ok response, w')
    | (.error exception, w') => ∃ reply, api.reply request w = (.error reply, w') ∧
        reply.Answers (CorrelationIdInterceptor.intercept api.requestCorrelationId request.headers)
          exception := by
  cases hauthorize : request.authorize with
  | error exception =>
      have hserve : (api.serve request).run w = (.error exception, w) := by
        rw [serve, hauthorize]
        rfl
      rw [hserve]
      refine ⟨guardReply exception, by rw [reply, hauthorize], ?_⟩
      exact ErrorReply.framework_answers (DomainExceptionFilter.le_resolveHttpStatus exception) _ _
  | ok u =>
      cases hvalidate : request.validate with
      | error exception =>
          have hserve : (api.serve request).run w = (.error exception, w) := by
            rw [serve, hauthorize, hvalidate]
            rfl
          rw [hserve]
          refine ⟨.framework 400, by rw [reply, hauthorize]; simp only [hvalidate], ?_⟩
          exact ErrorReply.framework_answers (Nat.le_refl 400) _ _
      | ok u =>
          have hserve : (api.serve request).run w = (api.dispatch request).run w := by
            rw [serve, hauthorize, hvalidate]
            rfl
          have hreply := reply.eq_def api request w
          rw [hauthorize] at hreply
          simp only [hvalidate] at hreply
          rw [hserve]
          generalize (api.dispatch request).run w = result at hreply ⊢
          obtain ⟨answer, w'⟩ := result
          cases answer with
          | ok response => exact hreply
          | error exception =>
              exact ⟨_, hreply, DomainExceptionFilter.reply_answers _ exception⟩

end Atlas
