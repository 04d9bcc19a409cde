-- What an accepted token is: signed under the key of the service by the one
-- algorithm in use, and stating claims that hold. Its faults say nothing about
-- claims that nobody signed.

import TenantAuth.Proofs.Token.Lifetime

namespace TenantAuth

open TenantAuth.Text

/-! ## Headers -/

namespace TokenHeader

/-- A header names an algorithm: under the one key `alg` of an object, or in the
second place of an array. -/
def Names (v : Json.Read) (name : String) : Prop :=
  ∃ alg : Json.Read, alg.caseName? = some name
    ∧ ((∃ members, v = .object members ∧ Json.valuesOf "alg" members = [alg])
      ∨ ∃ items, v = .array items ∧ items[1]? = some alg)

theorem names_of_algorithm? {v : Json.Read} {name : String} (h : algorithm? v = some name) :
    Names v name := by
  unfold algorithm? at h
  split at h
  · next typ alg cty jku jwk kid x5u x5c x5t x5tS256 hrecord =>
    split at h
    · rw [Option.bind_eq_some_iff] at h
      obtain ⟨name', hcase, h⟩ := h
      split at h
      · obtain rfl := Option.some.inj h
        exact ⟨alg, hcase, Json.field_of_record? hrecord (i := 1) rfl rfl⟩
      · simp at h
    · simp at h
  · simp at h

end TokenHeader

namespace Signer

/-! ## What is asked of the three parts -/

/-- A part spells a JSON value: it is the base64 of octets that are its text. -/
def Spells (part : List Char) (v : Json.Read) : Prop :=
  ∃ octets, part = Base64.urlSafe.encode [] octets ∧ Json.parse? (Utf8.decode octets) = some v

/-- A header that names RSA over SHA-256. -/
def NamesRs256 (header : List Char) : Prop :=
  ∃ v, Spells header v ∧ TokenHeader.Names v "RS256"

/-- A signature, in base64, of a message under the public key of a signer. -/
def Signs (s : Signer) (message signature : List Char) : Prop :=
  ∃ octets, signature = Base64.urlSafe.encode [] octets
    ∧ s.key.publicKey.Signs (Utf8.encode message) octets

/-- A payload that states claims: an object which reads as them, with a window
that does not reach before 1970. -/
def States (payload : List Char) (c : Claims) : Prop :=
  ∃ members, Spells payload (.object members) ∧ Claims.ofJson? (.object members) = some c
    ∧ 0 ≤ c.notBefore.nanos ∧ 0 ≤ c.expiresAt.nanos

/-- A token that the key of a signer vouches for: three parts between the last
two dots, of which the last one signs the others. -/
def Authentic (s : Signer) (token : String) (c : Claims) : Prop :=
  ∃ header payload signature, Cut token header payload signature ∧ NamesRs256 header
    ∧ Signs s (header ++ '.' :: payload) signature ∧ States payload c

theorem namesRs256_of_opened {s : Signer} {header payload signature : List Char} {c : Claims}
    (h : Opened s header payload signature c) : NamesRs256 header := by
  obtain ⟨v, hv, hname⟩ := Option.bind_eq_some_iff.1 h.named
  exact ⟨v, decodePart?_eq_some_iff.1 hv, TokenHeader.names_of_algorithm? hname⟩

theorem signs_of_opened {s : Signer} {header payload signature : List Char} {c : Claims}
    (h : Opened s header payload signature c) : Signs s (header ++ '.' :: payload) signature := by
  obtain ⟨octets, hoctets, hverifies⟩ := h.signed
  exact ⟨octets, (Base64.Alphabet.encode_of_decode? hoctets).symm,
    Rsa.PublicKey.verifies_iff.1 hverifies⟩

theorem states_of_opened {s : Signer} {header payload signature : List Char} {c : Claims}
    (h : Opened s header payload signature c) : States payload c := by
  have hstated := h.stated
  unfold claimsOfPayload? at hstated
  split at hstated
  · next members hpart =>
    split at hstated
    · rw [Option.bind_eq_some_iff] at hstated
      obtain ⟨c', hread, hstated⟩ := hstated
      split at hstated
      · next hepoch =>
        obtain rfl := Option.some.inj hstated
        exact ⟨members, decodePart?_eq_some_iff.1 hpart, hread, hepoch⟩
      · simp at hstated
    · simp at hstated
  · simp at hstated

theorem authentic_of_open {s : Signer} {token : String} {c : Claims} (h : s.openToken token = .ok c) :
    Authentic s token c := by
  obtain ⟨header, payload, signature, hcut, hopened⟩ := open_eq_ok_iff.1 h
  exact ⟨header, payload, signature, hcut, namesRs256_of_opened hopened, signs_of_opened hopened,
    states_of_opened hopened⟩

/-- A header of another algorithm, or a signature that is none, ends the checking
before the claims are looked at. -/
theorem open_of_foreign {s : Signer} {token : String} {header payload signature : List Char}
    (hcut : Cut token header payload signature)
    (h : ¬ NamesRs256 header ∨ ¬ Signs s (header ++ '.' :: payload) signature) :
    s.openToken token = .error .malformed ∨ s.openToken token = .error .invalidSignature := by
  rcases open_cases s token with ⟨header', payload', signature', c, hcut', hopened, -⟩ | herror
  · obtain ⟨rfl, rfl, rfl⟩ := cut_unique hcut hcut'
    rcases h with h | h
    · exact absurd (namesRs256_of_opened hopened) h
    · exact absurd (signs_of_opened hopened) h
  · exact herror

/-! ## The law -/

/-- A token is accepted only if it is authentic and its claims hold; and only an
authentic token of a proper window is called expired or not yet valid. One whose
header names another algorithm, or whose signature is none, is called malformed or
wrongly signed at any time, whatever it claims. The times at which a token is
accepted are none, or all from the one it names as its first up to its end. -/
theorem only_authentic_tokens_are_accepted (s : Signer) (token : String) :
    (∀ now c, s.verify token now = .ok c →
      Authentic s token c ∧ c.issuedAt < c.expiresAt ∧ c.notBefore ≤ now ∧ now < c.expiresAt)
    ∧ (∀ now, s.verify token now = .error .expired →
        ∃ c, Authentic s token c ∧ c.issuedAt < c.expiresAt ∧ c.expiresAt ≤ now)
    ∧ (∀ now, s.verify token now = .error .notYetValid →
        ∃ c, Authentic s token c ∧ c.issuedAt < c.expiresAt ∧ now < c.notBefore)
    ∧ (∀ header payload signature, Cut token header payload signature →
        ¬ NamesRs256 header ∨ ¬ Signs s (header ++ '.' :: payload) signature →
        ∀ now, s.verify token now = .error .malformed
          ∨ s.verify token now = .error .invalidSignature)
    ∧ ((∀ now c, s.verify token now ≠ .ok c)
        ∨ ∃ c, ∀ now c', s.verify token now = .ok c' ↔
            c' = c ∧ c.notBefore ≤ now ∧ now < c.expiresAt) := by
  refine ⟨?_, ?_, ?_, ?_, ?_⟩
  · intro now c h
    obtain ⟨hopen, hholds⟩ := verify_eq_ok_iff.1 h
    exact ⟨authentic_of_open hopen, hholds⟩
  · intro now h
    obtain ⟨c, hopen, hwindow, -, hlate⟩ := verify_eq_expired_iff.1 h
    exact ⟨c, authentic_of_open hopen, hwindow, hlate⟩
  · intro now h
    obtain ⟨c, hopen, hwindow, hearly⟩ := verify_eq_notYetValid_iff.1 h
    exact ⟨c, authentic_of_open hopen, hwindow, hearly⟩
  · intro header payload signature hcut hforeign now
    rcases open_of_foreign hcut hforeign with h | h
    · exact Or.inl (verify_of_error h now)
    · exact Or.inr (verify_of_error h now)
  · by_cases haccepted : ∃ now c, s.verify token now = .ok c
    · obtain ⟨now, c, h⟩ := haccepted
      obtain ⟨hopen, hwindow, -⟩ := verify_eq_ok_iff.1 h
      refine Or.inr ⟨c, fun now' c' => ?_⟩
      rw [verify_eq_ok_iff, hopen, Except.ok.injEq]
      constructor
      · rintro ⟨rfl, -, htimes⟩
        exact ⟨rfl, htimes⟩
      · rintro ⟨rfl, htimes⟩
        exact ⟨rfl, hwindow, htimes⟩
    · exact Or.inl fun now c h => haccepted ⟨now, c, h⟩

/-- A header of the form `{"alg":"HS256"}` names no RSA. -/
theorem not_namesRs256_of_hs256 : ¬ NamesRs256 "eyJhbGciOiJIUzI1NiJ9".toList := by
  rintro ⟨v, hspells, alg, hcase, hplace⟩
  have hread : decodePart? "eyJhbGciOiJIUzI1NiJ9".toList
      = some (.object [(.text "alg", .string (.text "HS256"))]) := rfl
  rw [decodePart?_eq_some_iff.2 hspells, Option.some.injEq] at hread
  subst hread
  rcases hplace with ⟨members, hmembers, hvalues⟩ | ⟨items, hitems, -⟩
  · rw [Json.object.injEq] at hmembers
    subst hmembers
    simp only [Json.valuesOf, List.filter_cons, decide_true, if_true, List.filter_nil,
      List.map_cons, List.map_nil, List.cons.injEq, and_true] at hvalues
    subst hvalues
    exact absurd hcase (by decide)
  · exact absurd hitems (by simp)

/-- A token signed with a key of two primes of Mersenne, inside its window; and a
token whose header names another algorithm. -/
theorem a_mersenne_token_is_authentic :
    (∃ token c, (Signer.mk .mersenne).verify token ⟨1700000001000000000, by decide, by decide⟩
        = .ok c ∧ Authentic ⟨.mersenne⟩ token c)
      ∧ ((Signer.mk .mersenne).verify "eyJhbGciOiJIUzI1NiJ9.e30.AA"
            ⟨0, by decide, by decide⟩ = .error .malformed
          ∨ (Signer.mk .mersenne).verify "eyJhbGciOiJIUzI1NiJ9.e30.AA"
            ⟨0, by decide, by decide⟩ = .error .invalidSignature) := by
  let c : Claims := ⟨⟨.ofNat 1⟩, ⟨.ofNat 2⟩, .owner, ⟨1700000000000000000, by decide, by decide⟩,
    ⟨1700000000000000000, by decide, by decide⟩, ⟨1700000900000000000, by decide, by decide⟩⟩
  obtain ⟨token, -, hopen⟩ := sign_then_open (s := ⟨.mersenne⟩) (c := c)
    Rsa.PrivateKey.refusal?_mersenne Rsa.PrivateKey.sound_mersenne (by decide) (by decide)
  let now : Instant := ⟨1700000001000000000, by decide, by decide⟩
  have htimes : c.cut.issuedAt < c.cut.expiresAt ∧ c.cut.notBefore ≤ now
      ∧ now < c.cut.expiresAt := by decide
  have hverify : (Signer.mk .mersenne).verify token now = .ok c.cut :=
    verify_eq_ok_iff.2 ⟨hopen, htimes⟩
  constructor
  · exact ⟨token, c.cut, hverify,
      ((only_authentic_tokens_are_accepted ⟨.mersenne⟩ token).1 _ _ hverify).1⟩
  · exact (only_authentic_tokens_are_accepted ⟨.mersenne⟩ "eyJhbGciOiJIUzI1NiJ9.e30.AA").2.2.2.1
      "eyJhbGciOiJIUzI1NiJ9".toList "e30".toList "AA".toList
      ⟨by decide, by decide, by decide⟩ (Or.inl not_namesRs256_of_hs256) _

end Signer

end TenantAuth
