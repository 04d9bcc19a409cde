-- A token that was issued is accepted for its fifteen minutes, and before and
-- after them it is refused for the right reason.

import TenantAuth.Proofs.Crypto.Rsa
import TenantAuth.Proofs.Token.Parts

namespace TenantAuth

open TenantAuth.Text

namespace Signer

/-! ## Signing and opening -/

theorem headerJson_named : (decodePart? (encodePart headerJson)).bind TokenHeader.algorithm?
    = some algorithm := by
  have hnumeric : headerJson.Numeric := ⟨trivial, trivial, trivial, trivial⟩
  rw [decodePart?_encodePart hnumeric, Option.bind_some]
  decide

/-- The claims that are looked at and given up are never written. -/
theorem registeredPassed_members (c : Claims) :
    registeredPassed (Json.membersAsRead c.members) = true := by
  have habsent : ∀ name ∈ ["sub", "iss", "aud"], name ∉ c.members.map (·.1) := by
    rw [Claims.names_members]
    decide
  rw [registeredPassed, List.all_eq_true]
  intro name hname
  rw [Json.single?_of_not_mem (habsent name hname)]

/-- Written claims are the payload they are read from, from 1970 on. -/
theorem claimsOfPayload?_encodePart {c : Claims} (hnotBefore : 0 ≤ c.notBefore.nanos)
    (hexpires : 0 ≤ c.expiresAt.nanos) :
    claimsOfPayload? (encodePart c.toJson) = some c.cut := by
  have hread := c.ofJson?_toJson
  rw [Claims.toJson_eq, Json.asRead_object] at hread
  have hcut : 0 ≤ c.cut.notBefore.nanos ∧ 0 ≤ c.cut.expiresAt.nanos := by
    simp only [Claims.cut, Instant.wholeSecond]
    omega
  rw [claimsOfPayload?, decodePart?_encodePart c.numeric_toJson, Claims.toJson_eq,
    Json.asRead_object]
  simp only [registeredPassed_members, if_true, hread, Option.bind_some, if_pos hcut]

theorem key_signs {s : Signer} (h : s.key.refusal? = none) (message : List UInt8) :
    ∃ signature, s.key.sign message = .ok signature := by
  simp only [Rsa.PrivateKey.sign, h]
  exact ⟨_, rfl⟩

/-- What a sound key signs is opened again. -/
theorem sign_then_open {s : Signer} (hkey : s.key.refusal? = none) (hsound : s.key.Sound)
    {c : Claims} (hnotBefore : 0 ≤ c.notBefore.nanos) (hexpires : 0 ≤ c.expiresAt.nanos) :
    ∃ token, s.sign c = .ok token ∧ s.openToken token = .ok c.cut := by
  obtain ⟨signature, hsigned⟩ := key_signs hkey (Utf8.encode (signingInput c))
  refine ⟨String.ofList (signingInput c ++ '.' :: Base64.urlSafe.encode [] signature), ?_, ?_⟩
  · simp only [sign, hsigned]
  have hcut : Cut (String.ofList (signingInput c ++ '.' :: Base64.urlSafe.encode [] signature))
      (encodePart headerJson) (encodePart c.toJson) (Base64.urlSafe.encode [] signature) :=
    ⟨String.toList_ofList, dot_not_mem_encodePart _, Base64.Alphabet.dot_not_mem_encode _⟩
  refine open_of_opened hcut ⟨headerJson_named, ⟨signature, ?_, ?_⟩, ?_⟩
  · exact Base64.Alphabet.decode?_encode Base64.Alphabet.distinct_urlSafe signature
  · exact hsound _ _ hsigned
  · exact claimsOfPayload?_encodePart hnotBefore hexpires

/-! ## The claims of a principal -/

/-- What the claims of a principal are, if the calendar has their end. -/
theorem forPrincipal?_eq (p : Principal) {issued : Instant}
    (h : (issued.add? (900 * 1000000000)).isSome) :
    ∃ expiry : Instant, expiry.nanos = issued.wholeSecond.nanos + 900 * 1000000000
      ∧ Claims.forPrincipal? p issued = some
          ⟨p.id, p.organization, p.role, issued.wholeSecond, issued.wholeSecond, expiry⟩ := by
  obtain ⟨later, hlater⟩ := Option.isSome_iff_exists.1 h
  rw [Instant.add?_eq_some_iff] at hlater
  have hle := issued.wholeSecond_le
  rw [Instant.le_def] at hle
  have hlow := issued.wholeSecond.start_le
  have hhigh := later.lt_end
  let expiry : Instant := ⟨issued.wholeSecond.nanos + 900 * 1000000000, by omega, by omega⟩
  have hexpiry : issued.wholeSecond.add? (Claims.lifetimeSeconds * 1000000000) = some expiry :=
    Instant.add?_eq_some_iff.2 rfl
  exact ⟨expiry, rfl, by rw [Claims.forPrincipal?, hexpiry, Option.map_some]⟩

/-! ## The law -/

/-- A token that a sound key issues at or after 1970 is accepted from the second
it was issued in until fifteen minutes later, with just the claims of its
principal. Before that it is not yet valid, from then on it is expired. So it is
accepted for fourteen minutes and fifty-nine seconds at the least. -/
theorem an_issued_token_holds_for_its_lifetime (s : Signer) (hkey : s.key.refusal? = none)
    (hsound : s.key.Sound) (p : Principal) (issued : Instant) (hepoch : 0 ≤ issued.nanos)
    (hcalendar : (issued.add? (900 * 1000000000)).isSome) :
    ∃ (token : String) (expiry : Instant) (c : Claims),
      s.issue? p issued = some (.ok token)
      ∧ expiry.nanos = issued.wholeSecond.nanos + 900 * 1000000000
      ∧ c = ⟨p.id, p.organization, p.role, issued.wholeSecond, issued.wholeSecond, expiry⟩
      ∧ (∀ t, issued.wholeSecond ≤ t → t < expiry → s.verify token t = .ok c)
      ∧ (∀ t, t < issued.wholeSecond → s.verify token t = .error .notYetValid)
      ∧ (∀ t, expiry ≤ t → s.verify token t = .error .expired)
      ∧ ∀ t : Instant, issued ≤ t → t.nanos ≤ issued.nanos + (14 * 60 + 59) * 1000000000 →
          s.verify token t = .ok c := by
  obtain ⟨expiry, hexpiry, hclaims⟩ := forPrincipal?_eq p hcalendar
  let c : Claims :=
    ⟨p.id, p.organization, p.role, issued.wholeSecond, issued.wholeSecond, expiry⟩
  have hstart : issued.wholeSecond.nanos = issued.nanos / 1000000000 * 1000000000 := rfl
  -- the three times are whole seconds already, so nothing is lost on the wire
  have hcut : c.cut = c := by
    have hend : expiry.wholeSecond = expiry := by
      rw [Instant.wholeSecond_eq_self_iff]
      omega
    simp only [Claims.cut, c, Instant.wholeSecond_wholeSecond, hend]
  have hnotBefore : 0 ≤ c.notBefore.nanos := by simp only [c]; omega
  have hexpires : 0 ≤ c.expiresAt.nanos := by simp only [c]; omega
  obtain ⟨token, hsign, hopen⟩ := sign_then_open hkey hsound hnotBefore hexpires
  rw [hcut] at hopen
  have hwindow : c.issuedAt < c.expiresAt := by
    simp only [c, Instant.lt_def]
    omega
  refine ⟨token, expiry, c, ?_, hexpiry, rfl, ?_, ?_, ?_, ?_⟩
  · rw [issue?, hclaims, Option.map_some, hsign]
  · intro t hfrom hto
    exact verify_eq_ok_iff.2 ⟨hopen, hwindow, hfrom, hto⟩
  · intro t hearly
    exact verify_eq_notYetValid_iff.2 ⟨c, hopen, hwindow, hearly⟩
  · intro t hlate
    refine verify_eq_expired_iff.2 ⟨c, hopen, hwindow, ?_, hlate⟩
    simp only [c, Instant.le_def] at hlate ⊢
    omega
  · intro t hfrom hto
    refine verify_eq_ok_iff.2 ⟨hopen, hwindow, ?_, ?_⟩
    · simp only [c, Instant.le_def] at hfrom ⊢
      omega
    · simp only [c, Instant.lt_def]
      omega

/-- A token issued half a second into a second, under a key of two primes of
Mersenne: accepted at once, and expired fifteen minutes later. -/
theorem a_token_of_a_mersenne_key_holds :
    ∃ token c, (Signer.mk .mersenne).issue?
        ⟨⟨.ofNat 1⟩, ⟨.ofNat 2⟩, "ann@example.org", "Ann", .owner, .empty,
          .ofInstant ⟨0, by decide, by decide⟩⟩
        ⟨1700000000500000000, by decide, by decide⟩ = some (.ok token)
      ∧ (Signer.mk .mersenne).verify token ⟨1700000000500000000, by decide, by decide⟩ = .ok c
      ∧ (Signer.mk .mersenne).verify token ⟨1700000900500000000, by decide, by decide⟩
          = .error .expired := by
  obtain ⟨token, expiry, c, hissue, hexpiry, -, -, -, hexpired, haccepted⟩ :=
    an_issued_token_holds_for_its_lifetime ⟨.mersenne⟩ Rsa.PrivateKey.refusal?_mersenne
      Rsa.PrivateKey.sound_mersenne
      ⟨⟨.ofNat 1⟩, ⟨.ofNat 2⟩, "ann@example.org", "Ann", .owner, .empty,
        .ofInstant ⟨0, by decide, by decide⟩⟩
      ⟨1700000000500000000, by decide, by decide⟩ (by decide) (by decide)
  refine ⟨token, c, hissue, haccepted _ (by decide) (by decide), hexpired _ ?_⟩
  simp only [Instant.le_def, hexpiry, Instant.wholeSecond]
  decide

end Signer

end TenantAuth
