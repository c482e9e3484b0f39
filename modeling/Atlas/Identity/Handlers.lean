import Atlas.Identity.Repository
import Atlas.TenantCore.Handlers

/-!
# Atlas.Identity.Handlers

Registration and login.

Tokens are whatever `sign` makes of the claims and the expiry; `bcryptHash` and
`bcryptCompare` are `bcrypt`.
-/

namespace Atlas

open StoreKit

/-! ## RegisterUser -/

structure RegisterUserCommand where
  email : String
  password : String
  displayName : String
  correlationId : String
deriving DecidableEq

structure RegisterUserResult where
  userId : String
  email : String
  displayName : String
deriving DecidableEq

/-- The event a registered user is announced with. -/
def userRegistered (rt : Runtime) (command : RegisterUserCommand) (saved : UserAggregate) :
    TenantAwareEvent where
  eventId := saved.userId
  eventType := USER_REGISTERED
  eventVersion := 1
  tenantId := "global"
  correlationId := command.correlationId
  actorId := none
  causationId := none
  traceId := none
  sourceService := "atlas-saas-platform"
  sourceVersion := none
  occurredAt := Js.toISOString rt.occurredAt
  payload := [("userId", .str saved.userId), ("email", .str saved.email.value),
    ("displayName", .str saved.displayName), ("registeredAt", .str (Js.toISOString rt.now))]
  isReplay := none
  replayId := none
  replayedAt := none
  replayReason := none
  replaySourceEventId := none

def RegisterUserHandler.execute (publish : TenantAwareEvent → App Unit)
    (bcryptHash : String → String) (rt : Runtime) (command : RegisterUserCommand) :
    App (Result RegisterUserResult) := do
  let emailExists ← UserRepository.existsByEmail command.email
  if emailExists then
    resultFail (.conflict s!"User with email '{command.email}' already exists")
  else do
    let user ← .lift (UserAggregate.create bcryptHash rt.generateId command.email
      command.password command.displayName)
    let saved ← UserRepository.save rt.savedAt user
    publish (userRegistered rt command saved)
    resultOk ⟨saved.userId, saved.email.value, saved.displayName⟩

/-! ## Tokens -/

inductive TokenType where
  | access
  | refresh
deriving DecidableEq

/-- The claims of a token; those of a refresh token name no e-mail and no role. -/
structure JwtPayload where
  sub : String
  email : Option String
  tenantId : String
  role : Option String
  type : TokenType
deriving DecidableEq

def JwtStrategy.validate (payload : JwtPayload) : Except Exception JwtPayload :=
  if payload.type ≠ .access then .error (.unauthorized "Invalid token type") else .ok payload

/-! ## Authenticate -/

structure AuthenticateCommand where
  email : String
  password : String
  organizationSlug : Option String
  correlationId : String
deriving DecidableEq

structure TokenPair (Token : Type) where
  accessToken : Token
  refreshToken : Token
  expiresIn : Nat
  userId : String
  email : String
  tenantId : String
deriving DecidableEq

namespace AuthenticateHandler

def resolveOrganization (ties : Typeorm.Arrangement OrganizationOrmEntity) (userId : String)
    (organizationSlug : Option String) : App (Option OrganizationAggregate) :=
  match Js.truthy organizationSlug with
  | some slug => OrganizationRepository.findBySlug slug
  | none => OrganizationRepository.findByOwnerId ties userId

/-- The claims of the access token. -/
def accessClaims (user : UserAggregate) (tenantId : String) : JwtPayload where
  sub := user.userId
  email := some user.email.value
  tenantId := tenantId
  role := some MembershipRole.OWNER.text
  type := .access

/-- The claims of the refresh token. -/
def refreshClaims (user : UserAggregate) (tenantId : String) : JwtPayload where
  sub := user.userId
  email := none
  tenantId := tenantId
  role := none
  type := .refresh

/-- The tokens of a user whose tenant is resolved. -/
def tokens {Token : Type} (sign : JwtPayload → String → Token) (user : UserAggregate)
    (tenantId : String) : TokenPair Token where
  accessToken := sign (accessClaims user tenantId) "15m"
  refreshToken := sign (refreshClaims user tenantId) "7d"
  expiresIn := 900
  userId := user.userId
  email := user.email.value
  tenantId := tenantId

def execute {Token : Type} (bcryptCompare : String → String → Bool)
    (sign : JwtPayload → String → Token) (ties : Typeorm.Arrangement OrganizationOrmEntity)
    (rt : Runtime) (command : AuthenticateCommand) : App (Result (TokenPair Token)) := do
  let user ← UserRepository.findByEmail command.email
  match user with
  | none => resultFail (.unauthorized "Invalid credentials")
  | some user =>
    if ¬ user.passwordHash.verify bcryptCompare command.password then
      resultFail (.unauthorized "Invalid credentials")
    else if ¬ user.isActive then
      resultFail (.unauthorized s!"Account is {user.status.text}")
    else do
      let organization ← resolveOrganization ties user.userId command.organizationSlug
      match organization with
      | none => resultFail (.unauthorized "Invalid credentials")
      | some organization =>
        if organization.ownerId ≠ user.userId then
          resultFail (.unauthorized "Invalid credentials")
        else if organization.status ≠ .ACTIVE then
          resultFail (.unauthorized s!"Tenant is {organization.status.text}")
        else do
          let user := user.recordLogin rt.now
          let _ ← UserRepository.save rt.savedAt user
          resultOk (tokens sign user organization.organizationId)

end AuthenticateHandler

end Atlas
