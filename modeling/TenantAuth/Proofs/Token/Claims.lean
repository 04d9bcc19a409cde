-- Claims on the wire: what is written is read back, with its times cut down to
-- whole seconds.

import Mathlib.Tactic.SplitIfs
import TenantAuth.Proofs.Identifier
import TenantAuth.Proofs.Json.Record
import TenantAuth.Token.Claims

namespace TenantAuth

/-! ## Instants -/

namespace Instant

theorem wholeSecond_le (t : Instant) : t.wholeSecond ≤ t := by
  simp only [le_def, wholeSecond]
  omega

theorem lt_wholeSecond_add (t : Instant) : t.nanos < t.wholeSecond.nanos + 1000000000 := by
  simp only [wholeSecond]
  omega

theorem wholeSecond_eq_self_iff {t : Instant} : t.wholeSecond = t ↔ 1000000000 ∣ t.nanos := by
  constructor
  · intro h
    rw [← h]
    exact Int.dvd_mul_left _ _
  · intro h
    have hnanos : t.wholeSecond.nanos = t.nanos := Int.ediv_mul_cancel h
    cases t
    simpa [wholeSecond] using hnanos

theorem wholeSecond_wholeSecond (t : Instant) : t.wholeSecond.wholeSecond = t.wholeSecond :=
  wholeSecond_eq_self_iff.2 (Int.dvd_mul_left _ _)

/-- Seconds lie well inside the numbers that are read. -/
theorem seconds_bounds (t : Instant) : -10 ^ 20 < t.seconds ∧ t.seconds < 10 ^ 20 := by
  have hlow := t.start_le
  have hhigh := t.lt_end
  unfold earliestSecond latestSecond nanosPerSecond at *
  simp only [seconds, nanosPerSecond]
  omega

theorem ofSeconds?_seconds (t : Instant) : ofSeconds? t.seconds = some t.wholeSecond :=
  ofNanos?_eq_some_iff.2 rfl

end Instant

/-! ## Fields -/

theorem Claims.instant?_ofInt (t : Instant) :
    Claims.instant? (Json.ofInt t.seconds).asRead = some t.wholeSecond := by
  obtain ⟨hlow, hhigh⟩ := t.seconds_bounds
  rw [Claims.instant?, Json.asRead, Json.int?_ofInt hlow hhigh, Option.bind_some,
    Instant.ofSeconds?_seconds]

theorem Role.ofJson?_toJson (r : Role) : Role.ofJson? r.toJson.asRead = some r :=
  Role.ofName?_name r

namespace Claims

/-- Claims with their times in whole seconds. -/
def cut (c : Claims) : Claims :=
  ⟨c.user, c.organization, c.role, c.issuedAt.wholeSecond, c.notBefore.wholeSecond,
    c.expiresAt.wholeSecond⟩

def members (c : Claims) : List (String × Json String) :=
  [("user_id", .string c.user.toText),
   ("organization_id", .string c.organization.toText),
   ("role", c.role.toJson),
   ("iat", Json.ofInt c.issuedAt.seconds),
   ("nbf", Json.ofInt c.notBefore.seconds),
   ("exp", Json.ofInt c.expiresAt.seconds)]

theorem toJson_eq (c : Claims) : c.toJson = .object c.members := rfl

theorem names_members (c : Claims) : c.members.map (·.1) = fieldNames := rfl

theorem nodup_names (c : Claims) : (c.members.map (·.1)).Nodup := by
  rw [names_members]
  decide

theorem numeric_toJson (c : Claims) : c.toJson.Numeric :=
  ⟨trivial, trivial, trivial, Json.numeric_ofInt _, Json.numeric_ofInt _, Json.numeric_ofInt _,
    trivial⟩

/-- Claims that are written are read back, cut down to whole seconds. -/
theorem ofJson?_toJson (c : Claims) : ofJson? c.toJson.asRead = some c.cut := by
  have hrecord := Json.record?_asRead c.nodup_names
  rw [names_members] at hrecord
  rw [toJson_eq, ofJson?, hrecord]
  simp only [members, List.map_cons, List.map_nil, Json.string?_asRead, UserId.ofText?_toText,
    OrganizationId.ofText?_toText, Role.ofJson?_toJson, instant?_ofInt, Option.bind_eq_bind,
    Option.bind_some, cut]

/-! ## Times -/

theorem validate_eq_ok_iff {c : Claims} {now : Instant} :
    c.validate now = .ok () ↔
      c.issuedAt < c.expiresAt ∧ c.notBefore ≤ now ∧ now < c.expiresAt := by
  simp only [validate, Instant.le_def, Instant.lt_def]
  split_ifs <;> simp <;> omega

theorem validate_eq_notYetValid_iff {c : Claims} {now : Instant} :
    c.validate now = .error .notYetValid ↔ c.issuedAt < c.expiresAt ∧ now < c.notBefore := by
  simp only [validate, Instant.le_def, Instant.lt_def]
  split_ifs <;> simp <;> omega

theorem validate_eq_expired_iff {c : Claims} {now : Instant} :
    c.validate now = .error .expired ↔
      c.issuedAt < c.expiresAt ∧ c.notBefore ≤ now ∧ c.expiresAt ≤ now := by
  simp only [validate, Instant.le_def, Instant.lt_def]
  split_ifs <;> simp <;> omega

end Claims

end TenantAuth
