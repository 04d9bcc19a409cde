-- Claims as they travel. Writing them cuts their times down to whole seconds, and claims that a
-- principal is given have such times from the start. Whatever text is read as claims is settled by
-- writing it once.

import TenantAuth.Proofs.Json.Text
import TenantAuth.Proofs.Token.Lifetime

namespace TenantAuth

/-! ## Whole seconds -/

/-- `s` is the start of the second that holds `t`, before 1970 as well as after. -/
structure Instant.StartsSecondOf (s t : Instant) : Prop where
  whole : 1000000000 ∣ s.nanos
  le : s ≤ t
  within : t.nanos < s.nanos + 1000000000

theorem Instant.wholeSecond_startsSecondOf (t : Instant) : t.wholeSecond.StartsSecondOf t :=
  ⟨Int.dvd_mul_left _ _, t.wholeSecond_le, t.lt_wholeSecond_add⟩

theorem Instant.ofSeconds?_eq_some_iff {n : Int} {t : Instant} :
    ofSeconds? n = some t ↔ t.nanos = n * 1000000000 := ofNanos?_eq_some_iff

/-! ## Roles -/

/-- A role is told by its name, or by an object that holds nothing but its name. -/
theorem Role.ofJson?_eq_some_iff {v : Json.Read} {r : Role} :
    ofJson? v = some r
      ↔ v = .string (.text r.name) ∨ v = .object [(.text r.name, .null)] := by
  simp only [ofJson?, Option.bind_eq_some_iff, ofName?_eq_some_iff,
    exists_eq_right, Json.caseName?_eq_some_iff]

/-! ## Claims -/

namespace Claims

/-- `c` are the claims `of`, with each time cut down to the start of its second. -/
structure CutDown (of c : Claims) : Prop where
  user : c.user = of.user
  organization : c.organization = of.organization
  role : c.role = of.role
  issuedAt : c.issuedAt.StartsSecondOf of.issuedAt
  notBefore : c.notBefore.StartsSecondOf of.notBefore
  expiresAt : c.expiresAt.StartsSecondOf of.expiresAt

theorem cutDown_cut (c : Claims) : c.CutDown c.cut :=
  ⟨rfl, rfl, rfl, Instant.wholeSecond_startsSecondOf _, Instant.wholeSecond_startsSecondOf _,
    Instant.wholeSecond_startsSecondOf _⟩

/-- Claims whose times are whole seconds lose nothing. -/
theorem cut_eq_self_iff {c : Claims} :
    c.cut = c ↔ 1000000000 ∣ c.issuedAt.nanos ∧ 1000000000 ∣ c.notBefore.nanos
      ∧ 1000000000 ∣ c.expiresAt.nanos := by
  cases c
  simp only [cut, mk.injEq, true_and, Instant.wholeSecond_eq_self_iff]

/-! ## Texts -/

def text (c : Claims) : String := c.toJson.render

def ofText? (s : String) : Option Claims := Json.readText ofJson? s

theorem ofText?_text (c : Claims) : ofText? c.text = some c.cut := by
  rw [ofText?, text, Json.readText_render c.numeric_toJson, ofJson?_toJson]

/-! ## What is read as claims -/

theorem instant?_eq_some_iff {v : Json.Read} {t : Instant} :
    instant? v = some t ↔ ∃ n, v.int? = some n ∧ t.nanos = n * 1000000000 := by
  simp only [instant?, Option.bind_eq_some_iff, Instant.ofSeconds?_eq_some_iff]

/-- A value gives the six fields of claims: ids as texts, the role by its name, and times in whole
seconds since 1970. -/
def Given (v : Json.Read) (c : Claims) : Prop :=
  ∃ user organization role iat nbf exp,
    Json.Fields fieldNames v [some (.string (.text user)), some (.string (.text organization)),
      some role, some iat, some nbf, some exp]
    ∧ UserId.ofText? user = some c.user
    ∧ OrganizationId.ofText? organization = some c.organization
    ∧ (role = .string (.text c.role.name) ∨ role = .object [(.text c.role.name, .null)])
    ∧ (∃ n, iat.int? = some n ∧ c.issuedAt.nanos = n * 1000000000)
    ∧ (∃ n, nbf.int? = some n ∧ c.notBefore.nanos = n * 1000000000)
    ∧ ∃ n, exp.int? = some n ∧ c.expiresAt.nanos = n * 1000000000

theorem ofJson?_eq_some_iff {v : Json.Read} {c : Claims} : ofJson? v = some c ↔ Given v c := by
  constructor
  · intro h
    unfold ofJson? at h
    split at h
    · next user organization role iat nbf exp hrecord =>
      rw [Json.record?_eq_some_iff] at hrecord
      simp only [Option.bind_eq_bind, Option.bind_eq_some_iff, Option.some.injEq,
        Json.string?_eq_some_iff, Role.ofJson?_eq_some_iff, instant?_eq_some_iff] at h
      obtain ⟨_, ⟨user, rfl, huser⟩, _, ⟨organization, rfl, horganization⟩, _, hrole, _, hiat, _,
        hnbf, _, hexp, rfl⟩ := h
      exact ⟨user, organization, role, iat, nbf, exp, hrecord, huser, horganization, hrole, hiat,
        hnbf, hexp⟩
    · cases h
  · rintro ⟨user, organization, role, iat, nbf, exp, hfields, huser, horganization, hrole, hiat,
      hnbf, hexp⟩
    rw [← Json.record?_eq_some_iff] at hfields
    rw [← Role.ofJson?_eq_some_iff] at hrole
    rw [← instant?_eq_some_iff] at hiat hnbf hexp
    simp only [ofJson?, hfields, Json.string?, Json.Spelling.text?, Option.bind_eq_bind,
      Option.bind_some, huser, horganization, hrole, hiat, hnbf, hexp]

theorem ofText?_eq_some_iff {s : String} {c : Claims} :
    ofText? s = some c ↔ ∃ v, Json.ofString? s = some v ∧ Given v c := by
  simp only [ofText?, Json.readText_eq_some_iff, ofJson?_eq_some_iff]

/-- Claims that were read have times in whole seconds. -/
theorem cut_of_ofText? {s : String} {c : Claims} (h : ofText? s = some c) : c.cut = c := by
  obtain ⟨v, -, _, _, _, _, _, _, -, -, -, -, ⟨iat, -, hiat⟩, ⟨nbf, -, hnbf⟩, exp, -, hexp⟩ :=
    ofText?_eq_some_iff.1 h
  rw [cut_eq_self_iff, hiat, hnbf, hexp]
  exact ⟨Int.dvd_mul_left _ _, Int.dvd_mul_left _ _, Int.dvd_mul_left _ _⟩

/-! ## The claims of a principal -/

/-- `c` are the claims that `p` is given at `now`: they hold from the start of the second on, for
fifteen minutes. -/
structure GivenTo (p : Principal) (now : Instant) (c : Claims) : Prop where
  user : c.user = p.id
  organization : c.organization = p.organization
  role : c.role = p.role
  issuedAt : c.issuedAt.StartsSecondOf now
  notBefore : c.notBefore = c.issuedAt
  expiresAt : c.expiresAt.nanos = c.issuedAt.nanos + 900 * 1000000000

theorem forPrincipal?_given (p : Principal) {now : Instant}
    (h : (now.add? (900 * 1000000000)).isSome) :
    ∃ c, forPrincipal? p now = some c ∧ GivenTo p now c ∧ c.cut = c := by
  obtain ⟨expiry, hexpiry, hclaims⟩ := Signer.forPrincipal?_eq p h
  have hwhole := Instant.wholeSecond_startsSecondOf now
  refine ⟨_, hclaims, ⟨rfl, rfl, rfl, hwhole, rfl, hexpiry⟩, ?_⟩
  have hend : (1000000000 : Int) ∣ expiry.nanos := by
    have := hwhole.whole
    omega
  exact cut_eq_self_iff.2 ⟨hwhole.whole, hwhole.whole, hend⟩

/-! ## The law -/

/-- Claims come back from their text with each time cut down to the start of its second. The claims
that a principal is given lose nothing on the way. A text is read as claims just when it gives their
six fields, and writing these claims gives a text that is read as the same claims. -/
theorem claims_survive_their_text :
    (∀ c : Claims, ∃ c', ofText? c.text = some c' ∧ c.CutDown c')
      ∧ (∀ (p : Principal) (now : Instant), (now.add? (900 * 1000000000)).isSome →
          ∃ c, forPrincipal? p now = some c ∧ ofText? c.text = some c ∧ GivenTo p now c)
      ∧ (∀ s c, ofText? s = some c → ofText? c.text = some c)
      ∧ ∀ s c, ofText? s = some c ↔ ∃ v, Json.ofString? s = some v ∧ Given v c := by
  refine ⟨fun c => ⟨c.cut, c.ofText?_text, c.cutDown_cut⟩, fun p now h => ?_, fun s c h => ?_,
    fun s c => ofText?_eq_some_iff⟩
  · obtain ⟨c, hclaims, hgiven, hcut⟩ := forPrincipal?_given p h
    exact ⟨c, hclaims, by rw [ofText?_text, hcut], hgiven⟩
  · rw [ofText?_text, cut_of_ofText? h]

/-- Claims out of order, beside a member of another name, and with the role as a key. -/
def shuffledText : String :=
  "\x7b\"exp\":899,\"role\":\x7b\"admin\":null\x7d,\"sub\":[7],\"iat\":-1," ++
    "\"organization_id\":\"00000000000000000000000000000001\",\"nbf\":-1," ++
    "\"user_id\":\"00000000-0000-0000-0000-000000000007\"\x7d"

/-- The last nanosecond before 1970. -/
def beforeEpoch : Instant := ⟨-1, by decide, by decide⟩

def shuffled : Claims :=
  ⟨⟨.ofNat 7⟩, ⟨.ofNat 1⟩, .admin, beforeEpoch.wholeSecond, beforeEpoch.wholeSecond,
    ⟨899000000000, by decide, by decide⟩⟩

theorem claims_from_before_1970_survive_their_text :
    (beforeEpoch.add? (900 * 1000000000)).isSome = true
      ∧ (∀ p, ∃ c, forPrincipal? p beforeEpoch = some c ∧ ofText? c.text = some c)
      ∧ ofText? shuffledText = some shuffled
      ∧ ofText? shuffled.text = some shuffled := by
  have hcalendar : (beforeEpoch.add? (900 * 1000000000)).isSome = true := by decide
  have hread : ofText? shuffledText = some shuffled := by decide +kernel
  obtain ⟨-, hprincipal, hagain, -⟩ := claims_survive_their_text
  refine ⟨hcalendar, fun p => ?_, hread, hagain _ _ hread⟩
  obtain ⟨c, hclaims, htext, -⟩ := hprincipal p beforeEpoch hcalendar
  exact ⟨c, hclaims, htext⟩

end Claims

end TenantAuth
