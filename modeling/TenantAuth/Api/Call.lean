-- What a request makes the service ask of the world around it: the time,
-- values that nobody can guess, the stores, the identity provider, the log.

import TenantAuth.Backend
import TenantAuth.Log
import TenantAuth.LoginState

namespace TenantAuth.Api

/-- Whom the identity provider says somebody is. -/
structure Identity where
  email : String
  name : String
  deriving DecidableEq, Repr

/-- A call to the outside, where `B` are the calls to the stores. -/
inductive Call (B : Type) where
  /-- The time now. -/
  | clock
  | newSecret
  | newLoginState
  | newSessionId
  | newOrganization
  | newUser
  | backend (b : B)
  /-- A call to the stores that must be answered in so many nanoseconds. -/
  | within (limit : Nat) (b : B)
  | fileState (token : String) (ttl : Nat) (now : Instant)
  | consumeState (token : String) (now : Instant)
  /-- Ask the identity provider who is behind a code. -/
  | exchange (code : String)
  | log (e : Event)

/-- The reply to a call, where `R` are the replies of the stores. -/
abbrev Call.Reply {B : Type} (R : B → Type) : Call B → Type
  | .clock => Instant
  | .newSecret => String
  | .newLoginState => String
  | .newSessionId => SessionId
  | .newOrganization => NewOrganization
  | .newUser => NewUser
  | .backend b => R b
  | .within _ b => Option (R b)
  | .fileState .. => Unit
  | .consumeState .. => Bool
  | .exchange _ => Except AuthError Identity
  | .log _ => Unit

/-- A computation of the service. -/
abbrev Handler := Program (Call BackendCall) (Call.Reply BackendCall.Reply)

namespace Handler

/-- Make one call. -/
def ask (c : Call BackendCall) : Handler (c.Reply BackendCall.Reply) := Program.perform c

/-- Make the calls of a computation over the stores. -/
def stores {α : Type} (p : BackendProgram α) : Handler α := p.interpret fun b => ask (.backend b)

end Handler

end TenantAuth.Api
