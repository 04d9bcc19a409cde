-- Points of time as they are written down. A written time may name a leap
-- second, which no clock reading is: its fraction then runs on past one.

import TenantAuth.Time.Instant

namespace TenantAuth

/-- A written point of time: a whole second since 1970, and the nanoseconds
behind it. Past a full second only the last second of a minute may run. -/
structure Timestamp where
  second : Int
  nanos : Nat
  earliest_le : Instant.earliestSecond ≤ second
  le_latest : second ≤ Instant.latestSecond
  leap : nanos < 1000000000 ∨ (nanos < 2000000000 ∧ second % 60 = 59)
  deriving DecidableEq

namespace Timestamp

/-- The written form of a clock reading. -/
def ofInstant (t : Instant) : Timestamp where
  second := t.nanos / 1000000000
  nanos := (t.nanos % 1000000000).toNat
  earliest_le := by have := t.start_le; unfold nanosPerSecond at this; omega
  le_latest := by have := t.lt_end; unfold nanosPerSecond at this; omega
  leap := by left; omega

/-- A written time from its parts, if there is one. -/
def ofParts? (second : Int) (nanos : Nat) : Option Timestamp :=
  if h : (Instant.earliestSecond ≤ second ∧ second ≤ Instant.latestSecond)
      ∧ (nanos < 1000000000 ∨ (nanos < 2000000000 ∧ second % 60 = 59)) then
    some ⟨second, nanos, h.1.1, h.1.2, h.2⟩
  else none

/-- Whole milliseconds since 1970; a leap second counts on into the next one. -/
def millis (t : Timestamp) : Int := t.second * 1000 + t.nanos / 1000000

/-- A time comes first by its second, then by what is behind it. -/
protected def le (a b : Timestamp) : Bool :=
  a.second < b.second || (a.second == b.second && a.nanos ≤ b.nanos)

end Timestamp

end TenantAuth
