-- Refresh sessions. A session belongs to one user and is found by the hash
-- of a secret that only its owner has.

import TenantAuth.Crypto.Sha256
import TenantAuth.Identifier
import TenantAuth.Text.Base64
import TenantAuth.Text.Digit
import TenantAuth.Text.Utf8
import TenantAuth.Time.Instant

namespace TenantAuth

open TenantAuth.Text

/-- A session that a secret can be exchanged in. -/
structure Session where
  id : SessionId
  user : UserId
  /-- The hash of the secret; the secret itself is kept nowhere. -/
  tokenHash : String
  expiresAt : Instant
  createdAt : Instant
  deriving DecidableEq

namespace Session

/-- Seven days, in nanoseconds. -/
def lifetime : Nat := 7 * 86400 * 1000000000

/-- A session that begins now; none past the end of the calendar. -/
def fresh? (id : SessionId) (user : UserId) (tokenHash : String) (now : Instant) : Option Session :=
  (now.add? lifetime).map fun expiresAt => ⟨id, user, tokenHash, expiresAt, now⟩

/-- A session is over at the very moment of its expiry. -/
def isExpiredAt (s : Session) (now : Instant) : Bool := decide (s.expiresAt ≤ now)

end Session

namespace Secret

/-- The text of a secret made of random octets. -/
def ofBytes (bs : List UInt8) : String := Base64.encodeUrl bs

/-- Octets of a secret. -/
def byteCount : Nat := 32

/-- The hash under which a session is filed. -/
def hash (secret : String) : String := hexOfBytes (Sha256.hash (Utf8.encode secret.toList))

end Secret

end TenantAuth
