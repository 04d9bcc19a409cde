-- Principals and the organizations they belong to, with their JSON forms.

import TenantAuth.Identifier
import TenantAuth.Json.Printer
import TenantAuth.Permission
import TenantAuth.Text.TextSet
import TenantAuth.Time.Rfc3339

namespace TenantAuth

/-- Somebody who acts, as the directory knows them. Overrides are names that
only ever add permissions to those of the role. -/
structure Principal where
  id : UserId
  organization : OrganizationId
  email : String
  name : String
  role : Role
  overrides : TextSet
  createdAt : Timestamp
  deriving DecidableEq

namespace Principal

def belongsTo (p : Principal) (o : OrganizationId) : Bool := p.organization == o

def hasOverride (p : Principal) (permission : Permission) : Bool :=
  decide (permission.name ∈ p.overrides)

def toJson (p : Principal) : Json String :=
  .object
    [("id", .string p.id.toText),
     ("organization_id", .string p.organization.toText),
     ("email", .string p.email),
     ("name", .string p.name),
     ("role", p.role.toJson),
     ("overrides", Json.ofStrings p.overrides.items),
     ("created_at", .string p.createdAt.toRfc3339)]

def fieldNames : List String :=
  ["id", "organization_id", "email", "name", "role", "overrides", "created_at"]

def ofJson? (v : Json.Read) : Option Principal :=
  match v.record? fieldNames with
  | some [some id, some organization, some email, some name, some role, some overrides,
      some createdAt] => do
    let id ← id.string?.bind UserId.ofText?
    let organization ← organization.string?.bind OrganizationId.ofText?
    let email ← email.string?
    let name ← name.string?
    let role ← Role.ofJson? role
    let overrides ← overrides.strings?
    let createdAt ← createdAt.string?.bind Timestamp.ofRfc3339?
    some ⟨id, organization, email, name, role, .ofList overrides, createdAt⟩
  | _ => none

end Principal

/-- What every principal belongs to exactly one of. Nobody sees across its
border. -/
structure Organization where
  id : OrganizationId
  name : String
  /-- Unset only while nobody but members that were put in by hand are there. -/
  owner : Option UserId
  tier : String
  /-- The most sub-accounts it may have. -/
  maxSubAccounts : UInt32
  createdAt : Timestamp
  deriving DecidableEq

namespace Organization

def defaultTier : String := "free"

def defaultMaxSubAccounts : UInt32 := 5

/-- A new organization without an owner. -/
def fresh (id : OrganizationId) (name : String) (createdAt : Instant) : Organization :=
  ⟨id, name, none, defaultTier, defaultMaxSubAccounts, .ofInstant createdAt⟩

def toJson (o : Organization) : Json String :=
  .object
    [("id", .string o.id.toText),
     ("name", .string o.name),
     ("owner_id", match o.owner with
       | some u => .string u.toText
       | none => .null),
     ("subscription_tier", .string o.tier),
     ("max_sub_accounts", Json.ofNat o.maxSubAccounts.toNat),
     ("created_at", .string o.createdAt.toRfc3339)]

def fieldNames : List String :=
  ["id", "name", "owner_id", "subscription_tier", "max_sub_accounts", "created_at"]

/-- A quota: a whole number of thirty-two bits. -/
def quota? (v : Json.Read) : Option UInt32 :=
  v.int?.bind fun n => if 0 ≤ n ∧ n.toNat < UInt32.size then some (UInt32.ofNat n.toNat) else none

def ofJson? (v : Json.Read) : Option Organization :=
  match v.record? fieldNames with
  | some [some id, some name, owner, some tier, some quota, some createdAt] => do
    let id ← id.string?.bind OrganizationId.ofText?
    let name ← name.string?
    let owner ← Json.optional (fun v => v.string?.bind UserId.ofText?) owner
    let tier ← tier.string?
    let quota ← quota? quota
    let createdAt ← createdAt.string?.bind Timestamp.ofRfc3339?
    some ⟨id, name, owner, tier, quota, createdAt⟩
  | _ => none

end Organization

namespace Principal

/-- A new principal without overrides. -/
def fresh (id : UserId) (organization : OrganizationId) (email name : String) (role : Role)
    (createdAt : Instant) : Principal :=
  ⟨id, organization, email, name, role, .empty, .ofInstant createdAt⟩

end Principal

end TenantAuth
