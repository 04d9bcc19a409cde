-- Points of time as a clock reads them: whole nanoseconds since 1970-01-01
-- UTC, as far back and forward as the calendar in use reaches.

namespace TenantAuth

def nanosPerMilli : Int := 1000000
def nanosPerSecond : Int := 1000000000

namespace Instant

/-- The first second of the calendar, counted from 1970. -/
def earliestSecond : Int := -8334601228800

/-- The last second of the calendar, counted from 1970. -/
def latestSecond : Int := 8210266876799

end Instant

/-- A point of time inside the calendar. -/
structure Instant where
  nanos : Int
  start_le : Instant.earliestSecond * nanosPerSecond ≤ nanos
  lt_end : nanos < (Instant.latestSecond + 1) * nanosPerSecond
  deriving DecidableEq

namespace Instant

instance : LE Instant := ⟨fun a b => a.nanos ≤ b.nanos⟩
instance : LT Instant := ⟨fun a b => a.nanos < b.nanos⟩
instance (a b : Instant) : Decidable (a ≤ b) := inferInstanceAs (Decidable (a.nanos ≤ b.nanos))
instance (a b : Instant) : Decidable (a < b) := inferInstanceAs (Decidable (a.nanos < b.nanos))

theorem le_def {a b : Instant} : a ≤ b ↔ a.nanos ≤ b.nanos := Iff.rfl
theorem lt_def {a b : Instant} : a < b ↔ a.nanos < b.nanos := Iff.rfl

/-- The point of time from which all others are counted. -/
def epoch : Instant := ⟨0, by decide, by decide⟩

/-- The last point of time. -/
def latest : Instant := ⟨(latestSecond + 1) * nanosPerSecond - 1, by decide, by decide⟩

theorem le_latest (t : Instant) : t ≤ latest := Int.le_sub_one_of_lt t.lt_end

/-- The point of time so many nanoseconds after 1970, if the calendar has it. -/
def ofNanos? (n : Int) : Option Instant :=
  if h : earliestSecond * nanosPerSecond ≤ n ∧ n < (latestSecond + 1) * nanosPerSecond then
    some ⟨n, h.1, h.2⟩
  else none

def ofMillis? (n : Int) : Option Instant := ofNanos? (n * nanosPerMilli)

def ofSeconds? (n : Int) : Option Instant := ofNanos? (n * nanosPerSecond)

/-- A later point of time, if the calendar reaches it. -/
def add? (t : Instant) (nanos : Nat) : Option Instant := ofNanos? (t.nanos + nanos)

/-- A later point of time, or the last one if the calendar does not reach it. -/
def addCapped (t : Instant) (nanos : Nat) : Instant := (t.add? nanos).getD latest

/-- Whole seconds since 1970, cut down toward the past. -/
def seconds (t : Instant) : Int := t.nanos / nanosPerSecond

/-- Whole milliseconds since 1970, cut down toward the past. -/
def millis (t : Instant) : Int := t.nanos / nanosPerMilli

/-- The start of the second that holds a point of time. -/
def wholeSecond (t : Instant) : Instant where
  nanos := t.nanos / 1000000000 * 1000000000
  start_le := by have := t.start_le; unfold earliestSecond nanosPerSecond at *; omega
  lt_end := by have := t.lt_end; omega

theorem ofNanos?_eq_some_iff {n : Int} {t : Instant} : ofNanos? n = some t ↔ t.nanos = n := by
  unfold ofNanos?
  constructor
  · intro h
    split at h
    · simp only [Option.some.injEq] at h
      subst h
      rfl
    · simp at h
  · rintro rfl
    simp [t.start_le, t.lt_end]

theorem add?_eq_some_iff {t u : Instant} {d : Nat} : t.add? d = some u ↔ u.nanos = t.nanos + d :=
  ofNanos?_eq_some_iff

end Instant

end TenantAuth
