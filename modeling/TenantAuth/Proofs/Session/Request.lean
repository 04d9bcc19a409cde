-- What can be asked of the sessions, as data: each request is one program over
-- the stores. Secrets and times stand in the request, so a history of requests
-- says all there is to say about chance and clocks.

import TenantAuth.Session.Refresh

namespace TenantAuth.Refresh

inductive Request where
  | create (user : UserId) (secret : String) (id : SessionId) (now : Instant)
  | validate (secret : String) (now : Instant)
  /-- Exchange `secret` for `next`, which is generated whatever comes of it. -/
  | rotate (secret next : String) (id : SessionId) (now : Instant)
  | revoke (user : UserId)
  | revokeSecret (secret : String)
  | sweep (now : Instant)
  deriving DecidableEq

namespace Request

abbrev Answer : Request → Type
  | create .. => Except RefreshError String
  | validate .. => Except RefreshError Principal
  | rotate .. => Except RefreshError (String × Principal)
  | revoke _ => Except RefreshError Unit
  | revokeSecret _ => Except RefreshError Unit
  | sweep _ => Except RefreshError Nat

def program : (r : Request) → BackendProgram r.Answer
  | create user secret id now => Refresh.create user secret id now
  | validate secret now => Refresh.validate secret now
  | rotate secret next id now => Refresh.rotate secret next id now
  | revoke user => Refresh.revoke user
  | revokeSecret secret => Refresh.revokeSecret secret
  | sweep now => Refresh.sweep now

def time? : Request → Option Instant
  | create _ _ _ now | validate _ now | rotate _ _ _ now | sweep now => some now
  | revoke _ | revokeSecret _ => none

/-- The secret that is generated for a request. -/
def generated? : Request → Option String
  | create _ secret _ _ => some secret
  | rotate _ next _ _ => some next
  | validate .. | revoke _ | revokeSecret _ | sweep _ => none

/-- The secret that a request presents. -/
def presented? : Request → Option String
  | validate secret _ | rotate secret _ _ _ | revokeSecret secret => some secret
  | create .. | revoke _ | sweep _ => none

/-- Every secret that has to do with a request. -/
def secrets (r : Request) : List String := r.generated?.toList ++ r.presented?.toList

end Request

/-- The secrets that are generated for some requests are pairwise distinct. -/
def Distinct (rs : List Request) : Prop := (rs.filterMap Request.generated?).Nodup

/-- The hash tells some secrets apart. -/
def Apart (secrets : List String) : Prop :=
  ∀ a ∈ secrets, ∀ b ∈ secrets, Secret.hash a = Secret.hash b → a = b

end TenantAuth.Refresh
