import Atlas.Identity.Handlers
import Atlas.TenantAware

/-!
# Atlas.Http.TenantContext

The tenant context of a request, and the two ways a tenant id comes to be used.

The middleware runs before any token is verified: it opens a context for the
tenant that the `x-tenant-id` header names, which the repositories then ask.
`@TenantId()` runs after the guards; it too prefers the header.
-/

namespace Atlas

open StoreKit TenantAwareRepository

/-- The headers of a request that the application reads, but for the
`Authorization` header. -/
structure Headers where
  xTenantId : Option String
  xCorrelationId : Option String
deriving DecidableEq

/-- What is kept in `AsyncLocalStorage` while a request is handled. -/
structure TenantContext where
  tenantId : String
  correlationId : String
deriving DecidableEq

namespace TenantContextService

def getContext (ctx : Option TenantContext) : App TenantContext :=
  match ctx with
  | some context => pure context
  | none => .reject (.error ("TenantContext not initialized. " ++
      "Ensure TenantContextMiddleware is applied before accessing tenant context."))

def tryGetTenantId (ctx : Option TenantContext) : Option String := ctx.map (·.tenantId)

/-- What is filtered by this tenant goes on record, as what a repository
filters does. -/
def tenantId (ctx : Option TenantContext) : App String := do
  noteTenant (tryGetTenantId ctx)
  let context ← getContext ctx
  return context.tenantId

def correlationId (ctx : Option TenantContext) : App String := do
  let context ← getContext ctx
  return context.correlationId

end TenantContextService

/-- `use`: the context that the rest of the request is handled in, if any;
`uuidv4` is the id made up for a request without a correlation id. -/
def TenantContextMiddleware.use (uuidv4 : String) (headers : Headers) : Option TenantContext :=
  let correlationId := headers.xCorrelationId.getD uuidv4
  match headers.xTenantId with
  | none => none
  | some tenantIdFromHeader => some { tenantId := tenantIdFromHeader, correlationId }

/-- `@TenantId()`. -/
def TenantId.resolve (headers : Headers) (user : JwtPayload) : App String := do
  let tenantId := headers.xTenantId.getD user.tenantId
  noteTenant (some tenantId)
  return tenantId

/-- The repositories ask for the tenant of the header. -/
theorem TenantContextMiddleware.tryGetTenantId_use (uuidv4 : String) (headers : Headers) :
    TenantContextService.tryGetTenantId (TenantContextMiddleware.use uuidv4 headers) =
      headers.xTenantId := by
  obtain ⟨xTenantId, xCorrelationId⟩ := headers
  cases xTenantId with
  | none => rfl
  | some tenantId => rfl

end Atlas
