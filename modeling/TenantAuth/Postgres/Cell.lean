-- Values as they travel to the database and back: parameters of statements
-- and rows of replies.

import TenantAuth.Identifier
import TenantAuth.Json.Member
import TenantAuth.Json.Printer
import TenantAuth.Time.Timestamp

namespace TenantAuth.Postgres

/-- The type of a column. -/
inductive ColumnType where
  | uuid
  | text
  | texts
  | time
  | int4
  | int8
  | bool
  deriving DecidableEq, Repr

/-- The type that the database has a name for. -/
def ColumnType.ofName? (name : String) : Option ColumnType :=
  [("uuid", uuid), ("text", text), ("text[]", texts), ("timestamptz", time), ("int4", int4),
    ("int8", int8), ("bool", bool)].lookup name

/-- One value. Times have whole microseconds; a list of texts has no nulls among them, since
nobody writes any. -/
inductive Cell where
  | null
  | uuid (u : Uuid)
  | text (s : String)
  | texts (ss : List String)
  | time (t : Instant)
  | int4 (n : Int32)
  | int8 (n : Int64)
  | bool (b : Bool)
  deriving DecidableEq

namespace Cell

/-- The time from which the database counts: the start of the year 2000. -/
def epochNanos : Int := 946684800000000000

/-- A time in whole microseconds, cut down toward the epoch of the database. -/
def timeOfNanos (n : Int) : Cell :=
  let micros := Int.tdiv (n - epochNanos) 1000
  .time ((Instant.ofNanos? (micros * 1000 + epochNanos)).getD .latest)

def ofInstant (t : Instant) : Cell := timeOfNanos t.nanos

/-- A leap second counts on into the second behind it. -/
def ofTimestamp (t : Timestamp) : Cell := timeOfNanos (t.second * 1000000000 + t.nanos)

end Cell

/-- A time in whole microseconds, as the database keeps times. -/
def Precise (t : Instant) : Prop := t.nanos % 1000 = 0

instance (t : Instant) : Decidable (Precise t) := inferInstanceAs (Decidable (_ = _))

namespace Cell

/-- A time in whole microseconds is kept as it is. -/
theorem ofInstant_of_precise {t : Instant} (h : Precise t) : ofInstant t = .time t := by
  have hdvd : (1000 : Int) ∣ t.nanos - epochNanos := by
    unfold Precise at h
    unfold epochNanos
    omega
  have hnanos : Int.tdiv (t.nanos - epochNanos) 1000 * 1000 + epochNanos = t.nanos := by
    rw [Int.tdiv_mul_cancel hdvd]
    omega
  simp only [ofInstant, timeOfNanos, hnanos, Instant.ofNanos?_eq_some_iff.mpr rfl, Option.getD_some]

/-- Only times in whole microseconds are kept as they are. -/
theorem precise_of_ofInstant {t : Instant} (h : ofInstant t = .time t) : Precise t := by
  have hnanos : Int.tdiv (t.nanos - epochNanos) 1000 * 1000 + epochNanos = t.nanos := by
    simp only [ofInstant, timeOfNanos, time.injEq] at h
    cases hcut : Instant.ofNanos? (Int.tdiv (t.nanos - epochNanos) 1000 * 1000 + epochNanos) with
    | some u =>
      rw [hcut, Option.getD_some] at h
      rw [← Instant.ofNanos?_eq_some_iff.1 hcut, h]
    | none =>
      -- what stands in where the calendar ends is itself cut down to a time of the calendar
      rw [hcut, Option.getD_none] at h
      subst h
      exact absurd hcut (by decide)
  unfold Precise
  unfold epochNanos at hnanos
  omega

/-- A clock reading is kept alike in its written form. -/
theorem ofTimestamp_ofInstant (t : Instant) : ofTimestamp (.ofInstant t) = ofInstant t := by
  have hnanos : t.nanos / 1000000000 * 1000000000 + ((t.nanos % 1000000000).toNat : Int) = t.nanos := by
    omega
  exact congrArg timeOfNanos hnanos

theorem ofTimestamp_of_precise {t : Instant} (h : Precise t) :
    ofTimestamp (.ofInstant t) = .time t := by
  rw [ofTimestamp_ofInstant, ofInstant_of_precise h]

def uuid? : Cell → Option Uuid
  | .uuid u => some u
  | _ => none

def text? : Cell → Option String
  | .text s => some s
  | _ => none

def texts? : Cell → Option (List String)
  | .texts ss => some ss
  | _ => none

def time? : Cell → Option Instant
  | .time t => some t
  | _ => none

def int4? : Cell → Option Int32
  | .int4 n => some n
  | _ => none

def int8? : Cell → Option Int64
  | .int8 n => some n
  | _ => none

def bool? : Cell → Option Bool
  | .bool b => some b
  | _ => none

/-- The value of a column that a JSON value gives: ids as text, times in
milliseconds since 1970. -/
def ofJson? : ColumnType → Json.Read → Option Cell
  | _, .null => some null
  | .uuid, v => v.string?.bind fun s => (Uuid.ofText? s).map uuid
  | .text, v => v.string?.map text
  | .texts, v => v.strings?.map texts
  | .time, v => v.int?.bind fun n => (Instant.ofMillis? n).map ofInstant
  | .int4, v => v.int?.map fun n => int4 (Int32.ofInt n)
  | .int8, v => v.int?.map fun n => int8 (Int64.ofInt n)
  | .bool, v => v.bool?.map bool

def toJson : Cell → Json String
  | null => .null
  | uuid u => .string u.toText
  | text s => .string s
  | texts ss => Json.ofStrings ss
  | time t => Json.ofInt t.millis
  | int4 n => Json.ofInt n.toInt
  | int8 n => Json.ofInt n.toInt
  | bool b => .bool b

end Cell

/-- A row: values by the names of their columns. -/
structure Row where
  cells : List (String × Cell)
  deriving DecidableEq

end TenantAuth.Postgres
