-- The three parts of a token: what they are cut at, what they must hold, and
-- that this is all that opening a token looks at.

import Mathlib.Data.List.TakeWhile
import TenantAuth.Proofs.Json.RoundTrip
import TenantAuth.Proofs.Text.Base64
import TenantAuth.Proofs.Text.Utf8
import TenantAuth.Proofs.Token.Claims
import TenantAuth.Token.Signer

namespace TenantAuth.Signer

open TenantAuth.Text

/-! ## Cutting -/

/-- A text is cut at a dot with no other one behind it. -/
theorem cutAtLastDot?_eq_some_iff {cs front back : List Char} :
    cutAtLastDot? cs = some (front, back) ↔ cs = front ++ '.' :: back ∧ '.' ∉ back := by
  constructor
  · intro h
    simp only [cutAtLastDot?] at h
    split at h
    · simp at h
    · next d rest hdrop =>
      simp only [Option.some.injEq, Prod.mk.injEq] at h
      obtain ⟨rfl, rfl⟩ := h
      have hd : d = '.' := by
        have hhead := List.head?_dropWhile_not (fun c : Char => c != '.') cs.reverse
        rw [hdrop] at hhead
        simpa using hhead
      have hsplit := List.takeWhile_append_dropWhile (p := (· != '.')) (l := cs.reverse)
      rw [hdrop, hd] at hsplit
      constructor
      · have hrev := congrArg List.reverse hsplit
        simpa using hrev.symm
      · intro hmem
        have himp := List.mem_takeWhile_imp (List.mem_reverse.1 hmem)
        simp at himp
  · rintro ⟨rfl, hback⟩
    have hpass : ∀ c ∈ back.reverse, (c != '.') = true := by
      intro c hc
      rw [bne_iff_ne]
      rintro rfl
      exact hback (List.mem_reverse.1 hc)
    have hrev : (front ++ '.' :: back).reverse = back.reverse ++ '.' :: front.reverse := by simp
    rw [cutAtLastDot?, hrev, List.dropWhile_append_of_pos hpass, List.takeWhile_append_of_pos hpass]
    simp

/-! ## One part -/

/-- What a part is read as is the JSON value of its octets, of which it is the one
spelling. -/
theorem decodePart?_eq_some_iff {cs : List Char} {v : Json.Read} :
    decodePart? cs = some v ↔
      ∃ octets, cs = Base64.urlSafe.encode [] octets
        ∧ Json.parse? (Utf8.decode octets) = some v := by
  rw [decodePart?, Option.bind_eq_some_iff]
  simp only [Base64.Alphabet.decode?_eq_some_iff Base64.Alphabet.distinct_urlSafe]

theorem dot_not_mem_encodePart (v : Json String) : '.' ∉ encodePart v :=
  Base64.Alphabet.dot_not_mem_encode _

theorem decodePart?_encodePart {v : Json String} (hv : v.Numeric) :
    decodePart? (encodePart v) = some v.asRead := by
  rw [decodePart?_eq_some_iff]
  exact ⟨_, rfl, by rw [Utf8.decode_encode, Json.parse?_chars hv]⟩

/-! ## The whole token -/

/-- What a token must consist of to be opened: a header that names the algorithm
in use, a payload that states claims, and a signature of both with the dot
between them. -/
structure Opened (s : Signer) (header payload signature : List Char) (c : Claims) : Prop where
  named : (decodePart? header).bind TokenHeader.algorithm? = some algorithm
  signed : ∃ octets, Base64.urlSafe.decode? signature = some octets
    ∧ s.key.publicKey.verifies (Utf8.encode (header ++ '.' :: payload)) octets = true
  stated : claimsOfPayload? payload = some c

/-- Cut at the last two dots. -/
def Cut (token : String) (header payload signature : List Char) : Prop :=
  token.toList = header ++ '.' :: payload ++ '.' :: signature ∧ '.' ∉ payload ∧ '.' ∉ signature

theorem cut_iff {token : String} {header payload signature : List Char} :
    Cut token header payload signature ↔
      cutAtLastDot? token.toList = some (header ++ '.' :: payload, signature)
        ∧ cutAtLastDot? (header ++ '.' :: payload) = some (header, payload) := by
  rw [cutAtLastDot?_eq_some_iff, cutAtLastDot?_eq_some_iff]
  constructor
  · rintro ⟨htoken, hpayload, hsignature⟩
    exact ⟨⟨htoken, hsignature⟩, rfl, hpayload⟩
  · rintro ⟨⟨htoken, hsignature⟩, -, hpayload⟩
    exact ⟨htoken, hpayload, hsignature⟩

/-- The ways in which opening a token can end. -/
theorem open_cases (s : Signer) (token : String) :
    (∃ header payload signature c, Cut token header payload signature
      ∧ Opened s header payload signature c ∧ s.openToken token = .ok c)
    ∨ s.openToken token = .error .malformed ∨ s.openToken token = .error .invalidSignature := by
  unfold openToken
  split
  · exact Or.inr (Or.inl rfl)
  next message signature hcut =>
  split
  · exact Or.inr (Or.inl rfl)
  next header payload hcut' =>
  split
  · exact Or.inr (Or.inl rfl)
  next name hname =>
  split
  · exact Or.inr (Or.inr rfl)
  next halgorithm =>
  split
  · exact Or.inr (Or.inl rfl)
  next octets hoctets =>
  split
  · next hverifies =>
    split
    · next c hclaims =>
      obtain ⟨rfl, -⟩ := cutAtLastDot?_eq_some_iff.1 hcut'
      have hheader := hname.trans (congrArg some (Decidable.not_not.1 halgorithm))
      exact Or.inl ⟨header, payload, signature, c, cut_iff.2 ⟨hcut, hcut'⟩,
        ⟨hheader, ⟨octets, hoctets, hverifies⟩, hclaims⟩, rfl⟩
    · exact Or.inr (Or.inl rfl)
  · exact Or.inr (Or.inr rfl)

theorem open_of_opened {s : Signer} {token : String} {header payload signature : List Char}
    {c : Claims} (hcut : Cut token header payload signature)
    (h : Opened s header payload signature c) : s.openToken token = .ok c := by
  obtain ⟨hlast, hfirst⟩ := cut_iff.1 hcut
  obtain ⟨octets, hoctets, hverifies⟩ := h.signed
  simp only [openToken, hlast, hfirst, h.named, ne_eq, not_true, if_false, hoctets, hverifies, if_true,
    h.stated]

theorem open_eq_ok_iff {s : Signer} {token : String} {c : Claims} :
    s.openToken token = .ok c ↔
      ∃ header payload signature, Cut token header payload signature
        ∧ Opened s header payload signature c := by
  constructor
  · intro h
    rcases open_cases s token with ⟨header, payload, signature, c', hcut, hopened, h'⟩ | h' | h'
    · rw [h, Except.ok.injEq] at h'
      exact ⟨header, payload, signature, hcut, h' ▸ hopened⟩
    · simp [h] at h'
    · simp [h] at h'
  · rintro ⟨header, payload, signature, hcut, hopened⟩
    exact open_of_opened hcut hopened

theorem cut_unique {token : String} {header payload signature header' payload' signature'}
    (h : Cut token header payload signature) (h' : Cut token header' payload' signature') :
    header = header' ∧ payload = payload' ∧ signature = signature' := by
  obtain ⟨hlast, hfirst⟩ := cut_iff.1 h
  obtain ⟨hlast', hfirst'⟩ := cut_iff.1 h'
  rw [hlast, Option.some.injEq, Prod.mk.injEq] at hlast'
  rw [hlast'.1, hfirst', Option.some.injEq, Prod.mk.injEq] at hfirst
  exact ⟨hfirst.1.symm, hfirst.2.symm, hlast'.2⟩

/-! ## Over time -/

theorem verify_of_error {s : Signer} {token : String} {e : TokenError}
    (h : s.openToken token = .error e) (now : Instant) : s.verify token now = .error e := by
  rw [verify, h]

theorem verify_eq_ok_iff {s : Signer} {token : String} {now : Instant} {c : Claims} :
    s.verify token now = .ok c ↔
      s.openToken token = .ok c ∧ c.issuedAt < c.expiresAt ∧ c.notBefore ≤ now
        ∧ now < c.expiresAt := by
  rw [← Claims.validate_eq_ok_iff, verify]
  cases s.openToken token with
  | error e => simp
  | ok c' =>
    cases hvalidate : c'.validate now with
    | error e =>
      simp only [hvalidate, reduceCtorEq, Except.ok.injEq, false_iff, not_and]
      rintro rfl
      simp [hvalidate]
    | ok u =>
      simp only [hvalidate, Except.ok.injEq, iff_self_and]
      rintro rfl
      exact hvalidate

/-- A fault of time is answered for claims that could be opened. -/
theorem verify_eq_time_iff {s : Signer} {token : String} {now : Instant} {e : Claims.TimeError}
    (he : e ≠ .invalidTimeWindow) :
    s.verify token now = .error (.ofTimeError e) ↔
      ∃ c, s.openToken token = .ok c ∧ c.validate now = .error e := by
  rw [verify]
  rcases open_cases s token with ⟨_, _, _, c, -, -, h⟩ | h | h
  · cases hvalidate : c.validate now with
    | ok u => simp [h, hvalidate]
    | error e' =>
      simp only [h, hvalidate, Except.error.injEq, Except.ok.injEq, exists_eq_left']
      cases e <;> cases e' <;> simp [TokenError.ofTimeError] at he ⊢
  · cases e <;> simp [h, TokenError.ofTimeError] at he ⊢
  · cases e <;> simp [h, TokenError.ofTimeError] at he ⊢

theorem verify_eq_notYetValid_iff {s : Signer} {token : String} {now : Instant} :
    s.verify token now = .error .notYetValid ↔
      ∃ c, s.openToken token = .ok c ∧ c.issuedAt < c.expiresAt ∧ now < c.notBefore := by
  simp only [← Claims.validate_eq_notYetValid_iff]
  exact verify_eq_time_iff (e := .notYetValid) (by decide)

theorem verify_eq_expired_iff {s : Signer} {token : String} {now : Instant} :
    s.verify token now = .error .expired ↔
      ∃ c, s.openToken token = .ok c ∧ c.issuedAt < c.expiresAt ∧ c.notBefore ≤ now
        ∧ c.expiresAt ≤ now := by
  simp only [← Claims.validate_eq_expired_iff]
  exact verify_eq_time_iff (e := .expired) (by decide)

end TenantAuth.Signer
