-- Refreshing: what can be done with a secret. A user has at most one secret
-- that works, and a secret is used up by exchanging it for the next one.
-- Secrets, ids and the time come from the caller.

import TenantAuth.Backend

namespace TenantAuth

/-- Why a secret is not accepted. -/
inductive RefreshError where
  | notFound
  | expired
  /-- The user of the session is not in the directory. -/
  | unknownUser
  | store (e : StoreError)
  deriving DecidableEq, Repr

namespace RefreshError

def message : RefreshError → String
  | notFound => "refresh token not found"
  | expired => "refresh token expired"
  | unknownUser => "refresh token owner no longer exists"
  | store e => e.message

def toAuthError : RefreshError → AuthError
  | notFound | expired | unknownUser => .unauthenticated
  | store e => e.toAuthError

end RefreshError

namespace Refresh

open BackendProgram

/-- Begin a session with a new secret; the one before stops working. -/
def create (user : UserId) (secret : String) (id : SessionId) (now : Instant) :
    BackendProgram (Except RefreshError String) :=
  match Session.fresh? id user (Secret.hash secret) now with
  | none => .broken
  | some s => do
    match ← session (.replace s) with
    | .error e => pure (.error (.store e))
    | .ok () => pure (.ok secret)

/-- The user of a session, as the directory knows them. -/
def loadUser (user : UserId) : BackendProgram (Except RefreshError Principal) := do
  match ← directory (.findById user) with
  | .error e => pure (.error (.store e))
  | .ok none => pure (.error .unknownUser)
  | .ok (some p) => pure (.ok p)

/-- Whose secret this is. A session that is over is deleted. -/
def validate (secret : String) (now : Instant) : BackendProgram (Except RefreshError Principal) := do
  let hash := Secret.hash secret
  match ← session (.findByHash hash now) with
  | .error e => pure (.error (.store e))
  | .ok none => pure (.error .notFound)
  | .ok (some s) =>
    if s.isExpiredAt now then
      match ← session (.deleteByHash hash) with
      | .error e => pure (.error (.store e))
      | .ok _ => pure (.error .expired)
    else loadUser s.user

/-- Use up a secret and give out the next one. Where the user cannot be loaded
nothing is given out, and the sessions of that user are deleted. -/
def rotate (secret next : String) (id : SessionId) (now : Instant) :
    BackendProgram (Except RefreshError (String × Principal)) := do
  match ← session (.rotate (Secret.hash secret) (Secret.hash next) id now) with
  | .error e => pure (.error (.store e))
  | .ok none => pure (.error .notFound)
  | .ok (some consumed) =>
    if consumed.isExpiredAt now then pure (.error .expired)
    else
      match ← loadUser consumed.user with
      | .ok p => pure (.ok (next, p))
      | .error failure =>
        match ← session (.deleteForUser consumed.user) with
        | .error e => pure (.error (.store e))
        | .ok _ => pure (.error failure)

/-- Drop the session of a user, if there is one. -/
def revoke (user : UserId) : BackendProgram (Except RefreshError Unit) := do
  match ← session (.deleteForUser user) with
  | .error e => pure (.error (.store e))
  | .ok _ => pure (.ok ())

/-- Drop the session of a secret, if there is one. -/
def revokeSecret (secret : String) : BackendProgram (Except RefreshError Unit) := do
  match ← session (.deleteByHash (Secret.hash secret)) with
  | .error e => pure (.error (.store e))
  | .ok _ => pure (.ok ())

/-- Drop every session that is over. -/
def sweep (now : Instant) : BackendProgram (Except RefreshError Nat) := do
  match ← session (.sweepExpired now) with
  | .error e => pure (.error (.store e))
  | .ok count => pure (.ok count)

end Refresh

end TenantAuth
