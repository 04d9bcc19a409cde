-- What stands in front of the protected routes: the organization that the
-- path names, the principal behind the token, and the permission asked for.

import TenantAuth.Api.Answer
import TenantAuth.Authentication
import TenantAuth.Authorization
import TenantAuth.Text.Split

namespace TenantAuth.Api

open TenantAuth.Http

/-- A requirement, and whether the principal must belong to the organization of
the path. -/
structure Gate where
  roles : RoleTable
  requirement : Requirement
  sameOrganization : Bool
  deriving DecidableEq, Repr

namespace Gate

/-- Does the principal pass? A scoped gate without an organization to compare
with lets nobody pass; one that is not scoped ignores any organization. -/
def check (g : Gate) (p : Principal) (target : Option OrganizationId) : Except Denial Unit :=
  if g.sameOrganization then
    match target with
    | none => .error .organizationMismatch
    | some o => g.roles.authorize p g.requirement (some o)
  else g.roles.authorize p g.requirement none

/-- Let a request through to `inner`, or answer it here. -/
def enforce (g : Gate) (principal : Option Principal) (target : Option OrganizationId)
    (inner : Handler Response) : Handler Response :=
  match principal with
  | none => pure Answer.unauthorized
  | some p =>
    match g.check p target with
    | .ok () => inner
    | .error _ => pure Answer.forbidden

end Gate

/-- The segment of a path behind the first one that is `organizations`; empty
segments do not count. -/
def organizationSegment? (path : String) : Option String :=
  let segments := ((Text.splitOn '/' path.toList).filter fun s => !s.isEmpty).map String.ofList
  ((segments.dropWhile (· ≠ "organizations")).drop 1).head?

/-- Read the organization of the path before anything else happens. -/
def organizationScope (path : String) (inner : Option OrganizationId → Handler Response) :
    Handler Response :=
  match organizationSegment? path with
  | none => inner none
  | some segment =>
    match OrganizationId.ofText? segment with
    | some o => inner (some o)
    | none =>
      pure (Answer.problem 400 "invalid_organization_id" "invalid organization ID format")

/-- Find out who sends a request. -/
def authenticated (signer : Signer) (header : Option String) (inner : Principal → Handler Response) :
    Handler Response := do
  let now ← Handler.ask .clock
  match ← Handler.stores (Authentication.authenticate signer header now) with
  | .ok p => inner p
  | .error e => Handler.fail e

end TenantAuth.Api
