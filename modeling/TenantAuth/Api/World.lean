-- The world around the service when it keeps its data in memory.

import TenantAuth.Api.Call

namespace TenantAuth.Api

/-- What comes from outside, call by call: clock readings, values that nobody
can guess, answers of the identity provider, and which calls take too long.
The n-th call of all gets the n-th value. -/
structure Supply where
  clock : Nat → Instant
  secret : Nat → String
  loginState : Nat → String
  sessionId : Nat → SessionId
  organization : Nat → NewOrganization
  user : Nat → NewUser
  exchange : Nat → String → Except AuthError Identity
  late : Nat → Bool

/-- Everything that lasts from one request to the next. -/
structure World where
  memory : Memory
  states : LoginStates
  /-- How many calls there were. -/
  calls : Nat
  /-- The log, newest event first. -/
  log : List Event

namespace World

def empty : World := ⟨.empty, .empty, 0, []⟩

/-- One call. -/
def answer (supply : Supply) (c : Call BackendCall) (w : World) :
    Option (c.Reply BackendCall.Reply) × World :=
  let n := w.calls
  let w := { w with calls := n + 1 }
  match c with
  | .clock => (some (supply.clock n), w)
  | .newSecret => (some (supply.secret n), w)
  | .newLoginState => (some (supply.loginState n), w)
  | .newSessionId => (some (supply.sessionId n), w)
  | .newOrganization => (some (supply.organization n), w)
  | .newUser => (some (supply.user n), w)
  | .backend b =>
    let (reply, memory) := w.memory.answer b
    (reply, { w with memory })
  | .within _ b =>
    if supply.late n then (some none, w)
    else
      let (reply, memory) := w.memory.answer b
      (reply.map some, { w with memory })
  | .fileState token ttl now => (some (), { w with states := w.states.file token ttl now })
  | .consumeState token now =>
    let (worked, states) := LoginStates.consume token now w.states
    (some worked, { w with states })
  | .exchange code => (some (supply.exchange n code), w)
  | .log e => (some (), { w with log := e :: w.log })

end World

end TenantAuth.Api
