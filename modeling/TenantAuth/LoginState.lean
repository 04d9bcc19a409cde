-- The states of logins under way. A state is handed out before the identity
-- provider is asked and comes back with its answer; it works once, and only
-- for a while.

import TenantAuth.Keyed
import TenantAuth.Text.Base64
import TenantAuth.Time.Instant

namespace TenantAuth

/-- The states that are out, each with the last moment at which it works. -/
abbrev LoginStates := Keyed String Instant

namespace LoginStates

/-- Octets of a state. -/
def byteCount : Nat := 64

/-- The text of a state made of random octets. -/
def ofBytes (bs : List UInt8) : String := Text.Base64.encodeUrl bs

/-- The last moment of a state that works for `ttl` nanoseconds from now. -/
def expiry (ttl : Nat) (now : Instant) : Instant := now.addCapped ttl

/-- Hand out a state. -/
def file (token : String) (ttl : Nat) (now : Instant) (t : LoginStates) : LoginStates :=
  t.put token (expiry ttl now)

/-- Take a state back. It is gone afterwards in any case; the answer says
whether it still worked. -/
def consume (token : String) (now : Instant) (t : LoginStates) : Bool × LoginStates :=
  (match t.find? token with
    | some last => decide (now ≤ last)
    | none => false,
   t.erase token)

/-- Drop the states that no longer work; the answer is their number. -/
def sweep (now : Instant) (t : LoginStates) : Nat × LoginStates :=
  let kept : LoginStates := t.keep fun _ last => decide (now ≤ last)
  (t.size - kept.size, kept)

/-- How many sweeps a sweeper makes in some time: one at the end of each
interval, and none without an interval. -/
def sweepsWithin (interval time : Nat) : Nat := time / interval

end LoginStates

end TenantAuth
