-- Permissions and roles. Both sets are closed, and both have names that are
-- part of what is written and stored.

import TenantAuth.Json.Reader

namespace TenantAuth

/-- What a principal may be allowed to do. -/
inductive Permission where
  | createOrganization
  | readOrganization
  | updateOrganization
  | deleteOrganization
  | inviteUser
  | removeUser
  | updateUser
  | manageSettings
  deriving DecidableEq, Repr

namespace Permission

/-- Every permission, in the order in which lists of them are written. -/
def all : List Permission :=
  [createOrganization, readOrganization, updateOrganization, deleteOrganization, inviteUser,
   removeUser, updateUser, manageSettings]

theorem mem_all (p : Permission) : p ∈ all := by cases p <;> decide

def name : Permission → String
  | createOrganization => "create:org"
  | readOrganization => "read:org"
  | updateOrganization => "update:org"
  | deleteOrganization => "delete:org"
  | inviteUser => "invite:user"
  | removeUser => "remove:user"
  | updateUser => "update:user"
  | manageSettings => "manage:settings"

/-- The permission with a name. -/
def ofName? (s : String) : Option Permission := all.find? fun p => p.name = s

/-- The place of a permission in the order. -/
def rank (p : Permission) : Nat := all.idxOf p

/-- A list of permissions in their order, repeats kept. -/
def sort (ps : List Permission) : List Permission := ps.mergeSort fun a b => a.rank ≤ b.rank

def ofJson? (v : Json.Read) : Option Permission := v.caseName?.bind ofName?

def toJson (p : Permission) : Json String := .string p.name

end Permission

/-- A name that no permission has. -/
structure UnknownPermission where
  name : String
  deriving DecidableEq, Repr

def UnknownPermission.message (e : UnknownPermission) : String :=
  "unknown permission '" ++ e.name ++ "'"

def Permission.ofName (s : String) : Except UnknownPermission Permission :=
  match Permission.ofName? s with
  | some p => .ok p
  | none => .error ⟨s⟩

/-- The bundle of permissions that a principal has by position. -/
inductive Role where
  | owner
  | admin
  | subAccount
  deriving DecidableEq, Repr

namespace Role

def all : List Role := [owner, admin, subAccount]

def name : Role → String
  | owner => "owner"
  | admin => "admin"
  | subAccount => "sub_account"

/-- The role with a name. -/
def ofName? (s : String) : Option Role := all.find? fun r => r.name = s

def ofJson? (v : Json.Read) : Option Role := v.caseName?.bind ofName?

def toJson (r : Role) : Json String := .string r.name

end Role

/-- A name that no role has. -/
structure UnknownRole where
  name : String
  deriving DecidableEq, Repr

def UnknownRole.message (e : UnknownRole) : String := "unknown role '" ++ e.name ++ "'"

def Role.ofName (s : String) : Except UnknownRole Role :=
  match Role.ofName? s with
  | some r => .ok r
  | none => .error ⟨s⟩

/-- What each role is granted: rows of a role and its permissions. -/
structure RoleTable where
  rows : List (Role × List Permission)
  deriving DecidableEq, Repr

namespace RoleTable

/-- The permissions in the last row of a role, none if it has no row. -/
def row (t : RoleTable) (r : Role) : List Permission :=
  ((t.rows.reverse.find? fun entry => entry.1 = r).map (·.2)).getD []

def grants (t : RoleTable) (r : Role) (p : Permission) : Bool := (t.row r).contains p

/-- The permissions of a role, in their order. A row is a set, so its repeats do not count. -/
def permissionsOf (t : RoleTable) (r : Role) : List Permission := Permission.sort (t.row r).eraseDups

/-- Owners hold everything, admins everything but creating and deleting
organizations, sub-accounts only read. -/
def standard : RoleTable :=
  ⟨[(.owner, Permission.all),
    (.admin, [.readOrganization, .updateOrganization, .inviteUser, .removeUser, .updateUser,
      .manageSettings]),
    (.subAccount, [.readOrganization])]⟩

end RoleTable

end TenantAuth
