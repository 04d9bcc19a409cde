-- How long a state of a login works. The time is set in seconds of 64 bits and nanoseconds, which
-- is more than the calendar adds at once, and that is more than the calendar has. Both are capped,
-- one after the other; what comes of it is the exact sum, or the end of the calendar.

import TenantAuth.Proofs.Config
import TenantAuth.Proofs.Crypto.Rsa
import TenantAuth.Proofs.LoginState
import TenantAuth.Startup

namespace TenantAuth

/-! ## Lengths of time -/

/-- A length of time as it is set: seconds in a word of 64 bits, and nanoseconds behind them. -/
structure Duration where
  seconds : UInt64
  nanos : Nat
  nanos_lt : nanos < 1000000000

namespace Duration

def toNanos (d : Duration) : Nat := d.seconds.toNat * 1000000000 + d.nanos

def ofSeconds (seconds : UInt64) : Duration := ⟨seconds, 0, by decide⟩

theorem toNanos_ofSeconds (seconds : UInt64) :
    (ofSeconds seconds).toNanos = seconds.toNat * 1000000000 := Nat.add_zero _

/-- The longest time that can be set. -/
def longest : Duration := ⟨18446744073709551615, 999999999, by decide⟩

end Duration

/-- A length of time as the calendar adds it, forwards or backwards. It has at most `2 ^ 63 - 1`
milliseconds, and the nanoseconds count forwards from the second. -/
structure Span where
  seconds : Int
  nanos : Nat
  nanos_lt : nanos < 1000000000
  least_le : -9223372036854775807000000 ≤ seconds * 1000000000 + nanos
  le_most : seconds * 1000000000 + nanos ≤ 9223372036854775807000000

namespace Span

def toNanos (s : Span) : Int := s.seconds * 1000000000 + s.nanos

/-- The longest span: `2 ^ 63 - 1` milliseconds. -/
def longest : Span := ⟨9223372036854775, 807000000, by decide, by decide, by decide⟩

/-- The same length of time, unless it is too long. The seconds are looked at first. -/
def ofDuration? (d : Duration) : Option Span :=
  if longest.seconds < d.seconds.toNat then none
  else if h : (d.seconds.toNat : Int) * 1000000000 + d.nanos ≤ 9223372036854775807000000 then
    some ⟨d.seconds.toNat, d.nanos, d.nanos_lt, by omega, h⟩
  else none

/-- To take the longest span for what is too long is to cut a length of time off there. -/
theorem toNanos_getD_ofDuration? (d : Duration) :
    ((ofDuration? d).getD longest).toNanos = min (d.toNanos : Int) longest.toNanos := by
  have hnanos := d.nanos_lt
  have hseconds : longest.seconds = 9223372036854775 := rfl
  have hlongest : longest.toNanos = 9223372036854775807000000 := rfl
  unfold ofDuration? Duration.toNanos
  split
  · rw [Option.getD_none]
    omega
  · split
    · rw [Option.getD_some, toNanos]
      dsimp only
      omega
    · rw [Option.getD_none]
      omega

end Span

namespace Instant

theorem eq_of_nanos_eq {a b : Instant} (h : a.nanos = b.nanos) : a = b := by
  cases a
  cases h
  rfl

/-- The point of time at the end of a span, if the calendar has it. -/
def plus? (t : Instant) (s : Span) : Option Instant := ofNanos? (t.nanos + s.toNanos)

/-- Forwards, to take the last point of time for what the calendar has not is to cut off there. -/
theorem nanos_getD_plus? (t : Instant) {s : Span} (hs : 0 ≤ s.toNanos) :
    ((t.plus? s).getD latest).nanos = min (t.nanos + s.toNanos) latest.nanos := by
  have hlow := t.start_le
  have hlatest : latest.nanos = (latestSecond + 1) * nanosPerSecond - 1 := rfl
  unfold plus? ofNanos?
  split
  · rw [Option.getD_some]
    dsimp only
    omega
  · rw [Option.getD_none]
    omega

end Instant

namespace LoginStates

/-! ## The last moment -/

/-- The last moment of a state that works for some time from now. Too long a time counts as the
longest span, and where the calendar ends before, its end is the moment. -/
def lastMoment (ttl : Duration) (now : Instant) : Instant :=
  (now.plus? ((Span.ofDuration? ttl).getD Span.longest)).getD Instant.latest

/-- The longest span reaches over the whole calendar, so the cap on spans is never noticed. -/
theorem nanos_lastMoment (ttl : Duration) (now : Instant) :
    (lastMoment ttl now).nanos = deadline ttl.toNanos now := by
  have hspan := Span.toNanos_getD_ofDuration? ttl
  have hlongest : Span.longest.toNanos = 9223372036854775807000000 := rfl
  have hlatest : Instant.latest.nanos = (Instant.latestSecond + 1) * nanosPerSecond - 1 := rfl
  have hlow := now.start_le
  unfold Instant.latestSecond nanosPerSecond at hlatest
  unfold Instant.earliestSecond nanosPerSecond at hlow
  rw [lastMoment, Instant.nanos_getD_plus? now (by omega), hspan, deadline]
  omega

/-- What states are filed with. -/
theorem expiry_eq_lastMoment (ttl : Duration) (now : Instant) :
    expiry ttl.toNanos now = lastMoment ttl now :=
  Instant.eq_of_nanos_eq ((expiry_nanos ttl.toNanos now).trans (nanos_lastMoment ttl now).symm)

/-- A state works as long as its time lasts, and the calendar does not end any state before. -/
theorem consume_file {token : String} {ttl : Nat} {now later : Instant} {t : LoginStates} :
    (consume token later (t.file token ttl now)).1 = true ↔ later.nanos - now.nanos ≤ ttl := by
  have hhigh : later.nanos ≤ Instant.latest.nanos := later.le_latest
  rw [consume_eq_true_iff, works_file]
  simp only [true_and, ne_eq, not_true_eq_false, false_and, or_false, deadline]
  omega

/-- When a state is over that works for some time from now. -/
structure EndsExactly (ttl : Duration) (now : Instant) : Prop where
  /-- It is filed with the moment that the caps leave. -/
  filed : ∀ (token : String) (t : LoginStates),
    (t.file token ttl.toNanos now).find? token = some (lastMoment ttl now)
  exact : (lastMoment ttl now).nanos = min (now.nanos + ttl.toNanos) Instant.latest.nanos
  not_before_now : now ≤ lastMoment ttl now
  no_earlier_for_longer : ∀ ttl' : Duration, ttl.toNanos ≤ ttl'.toNanos →
    lastMoment ttl now ≤ lastMoment ttl' now
  no_earlier_from_later : ∀ now', now ≤ now' → lastMoment ttl now ≤ lastMoment ttl now'
  honoured_iff : ∀ (token : String) (t : LoginStates) (later : Instant),
    (consume token later (t.file token ttl.toNanos now)).1 = true ↔
      later.nanos - now.nanos ≤ ttl.toNanos

theorem endsExactly (ttl : Duration) (now : Instant) : EndsExactly ttl now where
  filed token t := by rw [← expiry_eq_lastMoment, file, Keyed.find?_put, if_pos rfl]
  exact := nanos_lastMoment ttl now
  not_before_now := by
    have hhigh : now.nanos ≤ Instant.latest.nanos := now.le_latest
    rw [Instant.le_def, nanos_lastMoment, deadline]
    omega
  no_earlier_for_longer ttl' h := by
    rw [Instant.le_def, nanos_lastMoment, nanos_lastMoment, deadline, deadline]
    omega
  no_earlier_from_later now' h := by
    rw [Instant.le_def] at h
    rw [Instant.le_def, nanos_lastMoment, nanos_lastMoment, deadline, deadline]
    omega
  honoured_iff _ _ _ := consume_file

/-- Whatever time is set, and whenever a state is handed out, it is over in exactly that time or
with the calendar. With a time that was read from the settings a state works, for at least a
second unless the calendar ends. -/
theorem every_lifetime_ends_exactly (ttl : Duration) (now : Instant) :
    EndsExactly ttl now ∧
    ∀ (lookup : Config.Lookup) (c : Config) (signer : Signer), Config.ofLookup lookup = .ok c →
      (Startup.service c signer).stateLifetime = (Duration.ofSeconds c.stateLifetime).toNanos ∧
      1000000000 ≤ (Startup.service c signer).stateLifetime ∧
      ∀ (token : String) (t : LoginStates) (later : Instant),
        later.nanos - now.nanos ≤ c.stateLifetime.toNat * 1000000000 →
        (consume token later
          (t.file token (Startup.service c signer).stateLifetime now)).1 = true := by
  refine ⟨endsExactly ttl now, fun lookup c signer h => ?_⟩
  have hlifetime :
      (Startup.service c signer).stateLifetime = c.stateLifetime.toNat * 1000000000 := rfl
  have hpos := Config.pos_of_readSeconds (Config.ofLookup_eq_ok_iff.1 h).stateLifetime
  rw [Duration.toNanos_ofSeconds, hlifetime]
  refine ⟨rfl, by omega, fun token t later hlater => consume_file.2 ?_⟩
  rw [Nat.cast_mul]
  exact hlater

/-- The settings of a service whose logins may take as long as can be set. -/
def patient : Config := { Config.default with stateLifetime := 18446744073709551615 }

def patientLookup : Config.Lookup := fun key =>
  if key = "OAUTH_STATE_TTL_SECS" then some " 18446744073709551615 " else none

/-- A state that is handed out with the longest time, at the first moment of the calendar, works
at the last. -/
theorem a_patient_service_waits_to_the_end :
    Config.ofLookup patientLookup = .ok patient ∧
    (consume "s" Instant.latest
      (LoginStates.file "s" (Startup.service patient ⟨.mersenne⟩).stateLifetime
        ⟨Instant.earliestSecond * nanosPerSecond, by decide, by decide⟩ .empty)).1 = true := by
  have hread : Config.ofLookup patientLookup = .ok patient := by decide +kernel
  refine ⟨hread, ?_⟩
  exact ((every_lifetime_ends_exactly .longest ⟨Instant.earliestSecond * nanosPerSecond, by decide, by decide⟩).2
    patientLookup patient ⟨.mersenne⟩ hread).2.2 "s" .empty Instant.latest (by decide)

end LoginStates

end TenantAuth
