import Atlas.Identity.Handlers

/-!
# Atlas.Http.Guards

`JwtAuthGuard` and `RbacGuard`.  Passport verifies the signature and the expiry
of a bearer token; the guards take it from there.
-/

namespace Atlas

/-- `token` holds the claims of the bearer token, if passport verifies it. -/
def JwtAuthGuard.canActivate (token : Option JwtPayload) : Except Exception JwtPayload :=
  match token with
  | some payload => JwtStrategy.validate payload
  | none => .error (.unauthorized "Invalid or expired token")

namespace RbacGuard

def ROLE_HIERARCHY : MembershipRole → Nat
  | .OWNER => 4
  | .ADMIN => 3
  | .MEMBER => 2
  | .VIEWER => 1

/-- `ROLE_HIERARCHY[role] ?? 0`. -/
def userRank (role : Option String) : Nat :=
  match [MembershipRole.OWNER, .ADMIN, .MEMBER, .VIEWER].find? fun r => role = some r.text with
  | some r => ROLE_HIERARCHY r
  | none => 0

def canActivate (requiredRoles : List MembershipRole) (user : JwtPayload) :
    Except Exception Unit :=
  if requiredRoles = [] then .ok ()
  else if requiredRoles.any fun role => ROLE_HIERARCHY role ≤ userRank user.role then .ok ()
  else
    let role := user.role.getD "undefined"
    let roles := ", ".intercalate (requiredRoles.map MembershipRole.text)
    .error (.forbidden s!"Role '{role}' does not meet required roles: {roles}")

end RbacGuard

end Atlas
