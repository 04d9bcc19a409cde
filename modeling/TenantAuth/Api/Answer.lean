-- The answers to requests that fail. Whoever may not know more gets the same
-- answer for every cause; what went wrong inside goes to the log, masked.

import TenantAuth.Api.Call
import TenantAuth.Error
import TenantAuth.Http.Message

namespace TenantAuth.Api

open TenantAuth.Http

namespace Answer

/-- A failure with a code for programs and a message for people. -/
def problem (status : Nat) (code message : String) : Response :=
  .json status (.object [("error", .string code), ("message", .string message)])

def unauthorized : Response := .json 401 (.object [("error", .string "unauthorized")])

def forbidden : Response := .json 403 (.object [("error", .string "forbidden")])

def invalidRequest : Response := problem 400 "invalid_request" "invalid request body"

/-- The answer to a failure. The texts of failures inside are not in it. -/
def ofError : AuthError → Response
  | .unauthenticated => unauthorized
  | .forbidden => forbidden
  | .notFound => problem 404 "not_found" "not found"
  | .conflict text => problem 409 "conflict" text
  | .transient _ => problem 503 "unavailable" "service temporarily unavailable"
  | .internal _ => problem 500 "internal" "internal server error"

/-- What the log learns of a failure. -/
def event? : AuthError → Option Event
  | .transient text => some (.ofFailure text "backing store unavailable")
  | .internal text => some (.ofFailure text "internal error")
  | _ => none

end Answer

namespace Handler

/-- Answer with a failure, and log it if it is one of the inside. -/
def fail (e : AuthError) : Handler Response := do
  match Answer.event? e with
  | some event => ask (.log event)
  | none => pure ()
  pure (Answer.ofError e)

/-- Go on with a value, or answer with the failure. -/
def orFail {ε α : Type} (toAuthError : ε → AuthError) (r : Except ε α)
    (next : α → Handler Response) : Handler Response :=
  match r with
  | .ok a => next a
  | .error e => fail (toAuthError e)

end Handler

end TenantAuth.Api
