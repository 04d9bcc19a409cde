-- Which request reaches what, and through which gates.

import TenantAuth.Api.Service

namespace TenantAuth.Api

open TenantAuth.Http

/-- A path that is served. -/
inductive Route where
  | health
  | keys
  | login
  | callback
  | refresh
  | logout
  | organizations
  /-- The members of the organization that a segment of the path names. -/
  | members (organization : String)
  | whoami
  deriving DecidableEq, Repr

/-- What a request asks the service to do. -/
inductive Action where
  | health
  | keys
  | login
  | callback
  | refresh
  | logout
  | createOrganization
  | listMembers
  | addMember
  | whoami
  deriving DecidableEq, Repr

namespace Route

/-- Paths are compared segment by segment, as they are written. -/
def ofPath? (path : String) : Option Route :=
  match (Text.splitOn '/' path.toList).map String.ofList with
  | ["", "health"] => some health
  | ["", ".well-known", "jwks.json"] => some keys
  | ["", "auth", "login", "google"] => some login
  | ["", "auth", "callback", "google"] => some callback
  | ["", "auth", "refresh"] => some refresh
  | ["", "auth", "logout"] => some logout
  | ["", "organizations"] => some organizations
  | ["", "organizations", id, "users"] => some (members id)
  | ["", "whoami"] => some whoami
  | _ => none

/-- What is done to read a route. -/
def onGet? : Route → Option Action
  | health => some .health
  | keys => some .keys
  | login => some .login
  | callback => some .callback
  | members _ => some .listMembers
  | whoami => some .whoami
  | refresh | logout | organizations => none

/-- What is done to write to a route. -/
def onPost? : Route → Option Action
  | refresh => some .refresh
  | logout => some .logout
  | organizations => some .createOrganization
  | members _ => some .addMember
  | health | keys | login | callback | whoami => none

/-- Whoever may read a route may also ask for the answer without its body. -/
def action? (r : Route) : Method → Option Action
  | .get | .head => r.onGet?
  | .post => r.onPost?
  | .other _ => none

/-- The methods that a route has. -/
def allowed (r : Route) : String :=
  ",".intercalate
    ((r.onGet?.toList.flatMap fun _ => ["GET", "HEAD"]) ++ r.onPost?.toList.map fun _ => "POST")

end Route

namespace Service

/-- Let a request through to `inner` with what stands in front of its route: the
organization of the path, then the principal. Open routes have neither. -/
def behindGates (s : Service) (route : Route) (r : Request)
    (inner : Option OrganizationId → Option Principal → Handler Response) : Handler Response :=
  let authorization := r.header? "authorization"
  match route with
  | .organizations | .members _ =>
    organizationScope r.target.path fun target =>
      authenticated s.signer authorization fun p => inner target (some p)
  | .whoami => authenticated s.signer authorization fun p => inner none (some p)
  | .health | .keys | .login | .callback | .refresh | .logout => inner none none

/-- The gate of every permission in a list. -/
def gate (s : Service) (permissions : List Permission) (sameOrganization : Bool) : Gate :=
  ⟨s.roles, .all permissions, sameOrganization⟩

def createGate (s : Service) : Gate := s.gate [.createOrganization] false

def readGate (s : Service) : Gate := s.gate [.readOrganization] true

def inviteGate (s : Service) : Gate := s.gate [.inviteUser] true

/-- Do what is asked for. The gates that are scoped refuse a request without a
target, and every route of a principal has one. -/
def act (s : Service) (r : Request) (target : Option OrganizationId) (principal : Option Principal) :
    Action → Handler Response
  | .health => health
  | .keys => s.keys
  | .login => s.login
  | .callback => s.callback r.target.query
  | .refresh => s.refresh r
  | .logout => logout r
  | .createOrganization => s.createGate.enforce principal target (createOrganization r)
  | .listMembers =>
    s.readGate.enforce principal target
      (match target with
        | some o => listMembers o
        | none => pure Answer.forbidden)
  | .addMember =>
    s.inviteGate.enforce principal target
      (match target with
        | some o => addMember o r
        | none => pure Answer.forbidden)
  | .whoami =>
    match principal with
    | some p => s.whoami p
    | none => pure Answer.unauthorized

/-- Answer a request. A method that a route does not have is refused, but only
behind what stands in front of the route. -/
def serve (s : Service) (r : Request) : Handler Response :=
  match Route.ofPath? r.target.path with
  | none => pure (.bare 404)
  | some route =>
    match route.action? r.method with
    | some action => do
      let response ← s.behindGates route r fun target principal => s.act r target principal action
      pure (if r.method = .head then response.withoutBody else response)
    | none => do
      let response ← s.behindGates route r fun _ _ => pure (.bare 405)
      pure (response.withHeader "allow" route.allowed)

end Service

end TenantAuth.Api
