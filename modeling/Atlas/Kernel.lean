import Atlas.Events
import Atlas.Lib.Program

/-!
# Atlas.Kernel

The shared kernel: exceptions, results, roles and plan tiers, domain events,
pagination.

A method of the application is a program that may throw; where it returns a
`Result` the failure is a value of the program, which its caller looks at.
-/

namespace Atlas

open StoreKit

/-! ## Exceptions and results -/

/-- The domain exceptions, a plain `Error`, and what the database driver
throws. -/
inductive Exception where
  | notFound (entity id : String)
  | conflict (message : String)
  | unauthorized (message : String)
  | forbidden (message : String)
  | validation (violations : List (String × List String))
  | error (message : String)
  | database
deriving DecidableEq

/-- `message`, where the application sets it. -/
def Exception.message : Exception → Option String
  | .notFound entity id => some s!"{entity} with id '{id}' was not found"
  | .conflict message => some message
  | .unauthorized message => some message
  | .forbidden message => some message
  | .validation _ => some "Validation failed"
  | .error message => some message
  | .database => none

/-- `Result<T>`. -/
abbrev Result (α : Type) := Except Exception α

/-! ## Enumerations -/

inductive TenantPlanTier where
  | FREE
  | STARTER
  | PRO
  | ENTERPRISE
deriving DecidableEq

def TenantPlanTier.text : TenantPlanTier → String
  | .FREE => "free"
  | .STARTER => "starter"
  | .PRO => "pro"
  | .ENTERPRISE => "enterprise"

/-- The tier of a text. -/
def TenantPlanTier.ofText? (s : String) : Option TenantPlanTier :=
  [FREE, STARTER, PRO, ENTERPRISE].find? fun tier => tier.text = s

inductive TenantStatus where
  | PROVISIONING
  | ACTIVE
  | SUSPENDED
  | DEPROVISIONING
  | DELETED
deriving DecidableEq

def TenantStatus.text : TenantStatus → String
  | .PROVISIONING => "provisioning"
  | .ACTIVE => "active"
  | .SUSPENDED => "suspended"
  | .DEPROVISIONING => "deprovisioning"
  | .DELETED => "deleted"

inductive MembershipRole where
  | OWNER
  | ADMIN
  | MEMBER
  | VIEWER
deriving DecidableEq

def MembershipRole.text : MembershipRole → String
  | .OWNER => "owner"
  | .ADMIN => "admin"
  | .MEMBER => "member"
  | .VIEWER => "viewer"

/-! ## The runtime -/

/-- What one operation is given where it asks for a random id or the clock. -/
structure Runtime where
  /-- The id of the entity it creates. -/
  generateId : String
  /-- The id made up for an owner that is not given. -/
  ownerId : String
  /-- The id of the domain event it records. -/
  eventId : String
  /-- The clock when an entity is created or changes state. -/
  now : Js.Date
  /-- The clock when `updatedAt` is set. -/
  touchedAt : Js.Date
  /-- The clock when an event is created. -/
  occurredAt : Js.Date
  /-- The clock of the database when a row is written. -/
  savedAt : Js.Date
  /-- The clock when an entity without a creation date is built from its row. -/
  loadedAt : Js.Date
deriving DecidableEq

/-! ## Domain events -/

/-- A domain event; `eventType` is the name of its class. -/
structure DomainEvent where
  eventId : String
  eventType : String
  eventVersion : Js.Double := 1
  tenantId : String
  correlationId : String
  actorId : Option String := none
  causationId : Option String := none
  traceId : Option String := none
  sourceService : String := "atlas-saas-platform"
  sourceVersion : Option String := none
  occurredAt : Js.Date
  payload : JsonObject
deriving DecidableEq

/-! ## Pagination -/

structure PaginationOptions where
  page : Option Js.Number
  limit : Option Js.Number
deriving DecidableEq

structure PaginationMeta where
  page : Js.Number
  limit : Js.Number
  total : Js.Number
  totalPages : Js.Number
  hasNextPage : Bool
  hasPreviousPage : Bool
deriving DecidableEq

structure PaginatedResult (α : Type) where
  data : List α
  «meta» : PaginationMeta
deriving DecidableEq

def buildPaginationMeta (arithmetic : Js.Arithmetic) (page limit total : Js.Number) :
    PaginationMeta :=
  let totalPages := (arithmetic.div total limit).ceil
  { page, limit, total, totalPages
    hasNextPage := page.lt totalPages
    hasPreviousPage := Js.Number.lt 1 page }

end Atlas
