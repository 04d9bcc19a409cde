-- Who may do what: the permissions of a role together with the overrides of
-- the principal, asked for by requirements.

import TenantAuth.Error
import TenantAuth.Principal

namespace TenantAuth

/-- Permissions asked for together. -/
inductive Requirement where
  /-- Every one of them must be held. -/
  | all (permissions : List Permission)
  /-- At least one of them must be held. -/
  | any (permissions : List Permission)
  deriving DecidableEq, Repr

def Requirement.permissions : Requirement → List Permission
  | all ps => ps
  | any ps => ps

/-- Why a principal is not allowed. -/
inductive Denial where
  | organizationMismatch
  | forbidden (missing : String)
  deriving DecidableEq, Repr

namespace Denial

def message : Denial → String
  | organizationMismatch => "organization mismatch"
  | forbidden missing => "forbidden: missing permission '" ++ missing ++ "'"

/-- Callers are not told why. -/
def toAuthError (_ : Denial) : AuthError := .forbidden

end Denial

namespace RoleTable

/-- The principal holds a permission, by role or by override. -/
def holds (t : RoleTable) (p : Principal) (permission : Permission) : Bool :=
  t.grants p.role permission || p.hasOverride permission

def holdsAny (t : RoleTable) (p : Principal) (permissions : List Permission) : Bool :=
  permissions.any (t.holds p)

def holdsAll (t : RoleTable) (p : Principal) (permissions : List Permission) : Bool :=
  permissions.all (t.holds p)

/-- Every permission that the principal holds, in their order. -/
def permissionsHeld (t : RoleTable) (p : Principal) : List Permission :=
  Permission.all.filter (t.holds p)

/-- A requirement of all names the first permission that is missing; one of any
names all that would have done. -/
def satisfies (t : RoleTable) (p : Principal) : Requirement → Except Denial Unit
  | .all permissions =>
    match permissions.find? fun permission => !t.holds p permission with
    | none => .ok ()
    | some missing => .error (.forbidden missing.name)
  | .any permissions =>
    if t.holdsAny p permissions then .ok ()
    else .error (.forbidden ("|".intercalate (permissions.map Permission.name)))

/-- A requirement, within a target organization if there is one. A principal of
another organization is refused whatever it holds. -/
def authorize (t : RoleTable) (p : Principal) (requirement : Requirement)
    (target : Option OrganizationId) : Except Denial Unit :=
  match target with
  | none => t.satisfies p requirement
  | some o => if p.belongsTo o then t.satisfies p requirement else .error .organizationMismatch

end RoleTable

end TenantAuth
