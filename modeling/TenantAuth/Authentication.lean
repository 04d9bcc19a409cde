-- Who sends a request: the bearer of an access token that is accepted now,
-- as the directory knows them.

import TenantAuth.Backend
import TenantAuth.Token.Signer

namespace TenantAuth

/-- What stands in front of the token, with the one space behind it. -/
def bearerScheme : List Char := ['B', 'e', 'a', 'r', 'e', 'r', ' ']

/-- The token of an authorization header. It is not empty and holds no space. -/
def bearerToken? (header : String) : Option String :=
  let cs := header.toList
  let token := cs.drop bearerScheme.length
  if cs.take bearerScheme.length = bearerScheme ∧ token ≠ [] ∧ ' ' ∉ token then
    some (String.ofList token)
  else none

namespace Authentication

open BackendProgram

/-- The principal behind some claims. The directory decides; claims that name
another organization than the directory does are out of date. -/
def principalOf (c : Claims) : BackendProgram (Except AuthError Principal) := do
  match ← directory (.findById c.user) with
  | .error e => pure (.error e.toAuthError)
  | .ok none => pure (.error .unauthenticated)
  | .ok (some p) =>
    if p.organization = c.organization then pure (.ok p) else pure (.error .unauthenticated)

/-- The principal behind an authorization header. Every failure is the same to
the caller, but for that of the directory. -/
def authenticate (signer : Signer) (header : Option String) (now : Instant) :
    BackendProgram (Except AuthError Principal) :=
  match header.bind bearerToken? with
  | none => pure (.error .unauthenticated)
  | some token =>
    match signer.verify token now with
    | .error _ => pure (.error .unauthenticated)
    | .ok c => principalOf c

end Authentication

end TenantAuth
