-- A supply that counts, for trying the service out: the clock moves on with
-- every call, no value comes twice, and every run is the same.

import TenantAuth.Api.World

namespace TenantAuth.Api

namespace Supply

/-- An id of the seventh version. -/
def countedId (n : Nat) : Uuid := Uuid.ofNat (0x01999999000070008000000000000000 + n)

/-- Octets that look like chance. -/
def countedOctets (purpose : String) (n : Nat) : List UInt8 :=
  Sha256.hash (Text.Utf8.encode (purpose ++ toString n).toList)

/-- The clock begins at `start`, in seconds since 1970, and moves on by ten
microseconds with each call. -/
def counted (start : Nat) (exchange : String → Except AuthError Identity) : Supply :=
  let clock (n : Nat) : Instant :=
    (Instant.ofNanos? (start * 1000000000 + n * 10000 : Nat)).getD .latest
  { clock
    secret n := Secret.ofBytes (countedOctets "secret" n)
    loginState n := LoginStates.ofBytes (countedOctets "state" n ++ countedOctets "login" n)
    sessionId n := ⟨countedId (4 * n)⟩
    organization n := ⟨⟨countedId (4 * n + 1)⟩, clock n, ⟨countedId (4 * n + 2)⟩, clock n⟩
    user n := ⟨⟨countedId (4 * n + 3)⟩, clock n⟩
    exchange _ := exchange
    late _ := false }

end Supply

end TenantAuth.Api
