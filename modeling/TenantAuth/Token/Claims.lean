-- The claims of an access token: who it speaks for, and when it holds.

import TenantAuth.Principal

namespace TenantAuth

/-- What an access token states. On the wire its times are whole seconds. -/
structure Claims where
  user : UserId
  organization : OrganizationId
  role : Role
  issuedAt : Instant
  notBefore : Instant
  expiresAt : Instant
  deriving DecidableEq

namespace Claims

/-- How long an access token holds: fifteen minutes. -/
def lifetimeSeconds : Nat := 900

/-- The claims for a principal from the second that holds `now`. There are none
if they would hold past the end of the calendar. -/
def forPrincipal? (p : Principal) (now : Instant) : Option Claims :=
  (now.wholeSecond.add? (lifetimeSeconds * 1000000000)).map fun expiry =>
    ⟨p.id, p.organization, p.role, now.wholeSecond, now.wholeSecond, expiry⟩

/-! ## JSON -/

def toJson (c : Claims) : Json String :=
  .object
    [("user_id", .string c.user.toText),
     ("organization_id", .string c.organization.toText),
     ("role", c.role.toJson),
     ("iat", Json.ofInt c.issuedAt.seconds),
     ("nbf", Json.ofInt c.notBefore.seconds),
     ("exp", Json.ofInt c.expiresAt.seconds)]

def fieldNames : List String := ["user_id", "organization_id", "role", "iat", "nbf", "exp"]

/-- A point of time given in whole seconds. -/
def instant? (v : Json.Read) : Option Instant := v.int?.bind Instant.ofSeconds?

def ofJson? (v : Json.Read) : Option Claims :=
  match v.record? fieldNames with
  | some [some user, some organization, some role, some iat, some nbf, some exp] => do
    let user ← user.string?.bind UserId.ofText?
    let organization ← organization.string?.bind OrganizationId.ofText?
    let role ← Role.ofJson? role
    let iat ← instant? iat
    let nbf ← instant? nbf
    let exp ← instant? exp
    some ⟨user, organization, role, iat, nbf, exp⟩
  | _ => none

/-! ## Times -/

/-- Why claims do not hold. -/
inductive TimeError where
  | expired
  | notYetValid
  | invalidTimeWindow
  deriving DecidableEq, Repr

def TimeError.message : TimeError → String
  | .expired => "token has expired"
  | .notYetValid => "token not yet valid"
  | .invalidTimeWindow => "invalid token time window (exp <= iat)"

/-- Claims hold from `notBefore` on and up to, but not at, `expiresAt`. -/
def validate (c : Claims) (now : Instant) : Except TimeError Unit :=
  if c.expiresAt ≤ c.issuedAt then .error .invalidTimeWindow
  else if now < c.notBefore then .error .notYetValid
  else if c.expiresAt ≤ now then .error .expired
  else .ok ()

end Claims

end TenantAuth
