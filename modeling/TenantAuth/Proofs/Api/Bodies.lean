-- What the bodies of answers show, field by field: members, organizations with their owners, and
-- tokens. Each body has the fields that are named here and no others.

import Mathlib.Data.List.Forall2
import TenantAuth.Api.Service

namespace TenantAuth

namespace Json

/-- The names in an object, in their order. -/
def names : Json String → List String
  | object members => members.map (·.1)
  | null | bool _ | number _ | string _ | array _ => []

/-- What stands under a name in an object. -/
def field? (name : String) : Json String → Option (Json String)
  | object members => members.lookup name
  | null | bool _ | number _ | string _ | array _ => none

end Json

namespace Api

/-! ## Members -/

/-- The value shows a member of an organization. -/
structure ShowsMember (p : Principal) (v : Json String) : Prop where
  names : v.names = ["id", "email", "name", "role", "permissions"]
  id : v.field? "id" = some (.string p.id.toText)
  email : v.field? "email" = some (.string p.email)
  name : v.field? "name" = some (.string p.name)
  role : v.field? "role" = some (.string p.role.name)
  /-- What was granted beyond the role. -/
  permissions : v.field? "permissions" = some (.array (p.overrides.items.map .string))

theorem showsMember_memberJson (p : Principal) : ShowsMember p (Service.memberJson p) :=
  ⟨rfl, rfl, rfl, rfl, rfl, rfl⟩

/-- The value shows an organization with these members, one after the other. -/
structure ShowsMembers (o : OrganizationId) (members : List Principal) (v : Json String) : Prop where
  names : v.names = ["organization_id", "users"]
  organization : v.field? "organization_id" = some (.string o.toText)
  users : ∃ items, v.field? "users" = some (.array items) ∧ List.Forall₂ ShowsMember members items

theorem forall₂_showsMember (members : List Principal) :
    List.Forall₂ ShowsMember members (members.map Service.memberJson) := by
  rw [List.forall₂_map_right_iff, List.forall₂_same]
  exact fun p _ => showsMember_memberJson p

/-! ## Organizations -/

/-- The value shows an organization. -/
structure ShowsOrganization (o : Organization) (v : Json String) : Prop where
  names : v.names = ["id", "name", "owner_id", "subscription_tier", "max_sub_accounts", "created_at"]
  id : v.field? "id" = some (.string o.id.toText)
  name : v.field? "name" = some (.string o.name)
  owner : v.field? "owner_id" = some (o.owner.elim .null fun u => .string u.toText)
  tier : v.field? "subscription_tier" = some (.string o.tier)
  quota : v.field? "max_sub_accounts" = some (.number (Nat.toDigits 10 o.maxSubAccounts.toNat))
  createdAt : v.field? "created_at" = some (.string o.createdAt.toRfc3339)

theorem showsOrganization_toJson (o : Organization) : ShowsOrganization o o.toJson := by
  obtain ⟨id, name, owner, tier, maxSubAccounts, createdAt⟩ := o
  cases owner <;> exact ⟨rfl, rfl, rfl, rfl, rfl, rfl, rfl⟩

/-- The value shows a new organization and its owner. -/
structure ShowsFounding (o : Organization) (owner : Principal) (v : Json String) : Prop where
  names : v.names = ["organization", "owner"]
  organization : ∃ shown, v.field? "organization" = some shown ∧ ShowsOrganization o shown
  owner : ∃ shown, v.field? "owner" = some shown ∧ ShowsMember owner shown

theorem showsFounding_of_fields (o : Organization) (owner : Principal) :
    ShowsFounding o owner
      (.object [("organization", o.toJson), ("owner", Service.memberJson owner)]) :=
  ⟨rfl, ⟨_, rfl, showsOrganization_toJson o⟩, ⟨_, rfl, showsMember_memberJson owner⟩⟩

/-! ## Tokens -/

/-- The value shows an access token that holds for a quarter of an hour, and a refresh token. -/
structure ShowsTokens (access refresh : String) (v : Json String) : Prop where
  names : v.names = ["access_token", "refresh_token", "token_type", "expires_in"]
  access : v.field? "access_token" = some (.string access)
  refresh : v.field? "refresh_token" = some (.string refresh)
  kind : v.field? "token_type" = some (.string "Bearer")
  lifetime : v.field? "expires_in" = some (.number (Nat.toDigits 10 900))

theorem showsTokens_tokensJson (access refresh : String) :
    ShowsTokens access refresh (Service.tokensJson access refresh) := ⟨rfl, rfl, rfl, rfl, rfl⟩

end Api

end TenantAuth
