-- A token that was issued can be sent: it holds nothing that a header cannot carry, and
-- whoever shows it where the directory knows its user is let in.

import TenantAuth.Proofs.Api.Gates
import TenantAuth.Proofs.Authentication
import TenantAuth.Proofs.Token.Lifetime

namespace TenantAuth

open TenantAuth.Text

/-- A character that stands for itself in a header, the space left out. -/
def Visible (c : Char) : Prop := 0x20 < c.toNat ∧ c.toNat < 0x7F

instance (c : Char) : Decidable (Visible c) := inferInstanceAs (Decidable (_ ∧ _))

namespace Signer

/-! ## The characters of a token -/

theorem visible_encode (octets : List UInt8) : ∀ c ∈ Base64.urlSafe.encode [] octets, Visible c := by
  have hdigit : ∀ n < 64, Visible (Base64.urlSafe.digit n) := by decide
  intro c hc
  obtain ⟨n, hn, rfl⟩ := Base64.Alphabet.mem_encode hc
  exact hdigit n hn

theorem visible_of_decodePart? {part : List Char} {v : Json.Read} (h : decodePart? part = some v) :
    ∀ c ∈ part, Visible c := by
  obtain ⟨octets, rfl, -⟩ := decodePart?_eq_some_iff.mp h
  exact visible_encode octets

theorem decodePart?_of_claimsOfPayload? {payload : List Char} {c : Claims}
    (h : claimsOfPayload? payload = some c) : ∃ v, decodePart? payload = some v := by
  unfold claimsOfPayload? at h
  cases hpart : decodePart? payload with
  | none =>
    rw [hpart] at h
    cases h
  | some v => exact ⟨v, rfl⟩

/-- A token that can be opened is visible as a whole, for its three parts are. -/
theorem visible_of_open {s : Signer} {token : String} {c : Claims} (h : s.openToken token = .ok c) :
    token.toList ≠ [] ∧ ∀ x ∈ token.toList, Visible x := by
  obtain ⟨header, payload, signature, ⟨htoken, -, -⟩, hopened⟩ := open_eq_ok_iff.mp h
  obtain ⟨v, hheader, -⟩ := Option.bind_eq_some_iff.mp hopened.named
  obtain ⟨w, hpayload⟩ := decodePart?_of_claimsOfPayload? hopened.stated
  obtain ⟨octets, hsignature, -⟩ := hopened.signed
  rw [Base64.Alphabet.decode?_eq_some_iff Base64.Alphabet.distinct_urlSafe] at hsignature
  have hdot : Visible '.' := by decide
  rw [htoken]
  refine ⟨by simp, fun x hx => ?_⟩
  simp only [List.mem_append, List.mem_cons] at hx
  rcases hx with (hx | rfl | hx) | rfl | hx
  · exact visible_of_decodePart? hheader x hx
  · exact hdot
  · exact visible_of_decodePart? hpayload x hx
  · exact hdot
  · rw [hsignature] at hx
    exact visible_encode octets x hx

/-- A sound key issues a token for any principal, and the token is accepted at once. -/
theorem issued_is_accepted {s : Signer} (hkey : s.key.refusal? = none) (hsound : s.key.Sound)
    (p : Principal) {now : Instant} (hepoch : 0 ≤ now.nanos)
    (hcalendar : (now.add? (900 * 1000000000)).isSome) :
    ∃ token c, s.issue? p now = some (.ok token) ∧ s.verify token now = .ok c ∧
      c.user = p.id ∧ c.organization = p.organization := by
  obtain ⟨expiry, hexpiry, hclaims⟩ := forPrincipal?_eq p hcalendar
  have hstart : now.wholeSecond.nanos = now.nanos / 1000000000 * 1000000000 := rfl
  obtain ⟨token, hsign, hopen⟩ := sign_then_open hkey hsound
    (c := ⟨p.id, p.organization, p.role, now.wholeSecond, now.wholeSecond, expiry⟩)
    (by simp only; omega) (by simp only; omega)
  refine ⟨token, _, by rw [issue?, hclaims, Option.map_some, hsign],
    verify_eq_ok_iff.mpr ⟨hopen, ?_, ?_, ?_⟩, rfl, rfl⟩
  all_goals
    simp only [Claims.cut, Instant.lt_def, Instant.le_def, Instant.wholeSecond]
    omega

end Signer

namespace Api

open TenantAuth.Http

/-! ## Headers -/

/-- A text of which every character is one octet. -/
def octets (text : String) : List UInt8 := text.toList.map fun c => UInt8.ofNat c.toNat

/-- The value of the header that shows a token. -/
def bearing (token : String) : List UInt8 := octets ("Bearer " ++ token)

theorem visibleText?_octets {text : String} (h : ∀ c ∈ text.toList, c = ' ' ∨ Visible c) :
    Request.visibleText? (octets text) = some text := by
  have hrange : ∀ c ∈ text.toList, 0x20 ≤ c.toNat ∧ c.toNat < 0x7F := by
    intro c hc
    rcases h c hc with rfl | ⟨hlow, hhigh⟩
    · decide
    · exact ⟨by omega, hhigh⟩
  have hoctet : ∀ c ∈ text.toList, (UInt8.ofNat c.toNat).toNat = c.toNat := by
    intro c hc
    obtain ⟨-, hhigh⟩ := hrange c hc
    exact UInt8.toNat_ofNat_of_lt' (show c.toNat < 256 by omega)
  have hchars : (octets text).map (fun b => Char.ofNat b.toNat) = text.toList := by
    rw [octets, List.map_map]
    refine (List.map_congr_left fun c hc => ?_).trans (List.map_id _)
    simp only [Function.comp_apply, hoctet c hc, Char.ofNat_toNat, id_eq]
  unfold Request.visibleText?
  rw [if_pos, hchars, String.ofList_toList]
  rw [List.all_eq_true]
  intro b hb
  obtain ⟨c, hc, rfl⟩ := List.mem_map.mp hb
  obtain ⟨hlow, hhigh⟩ := hrange c hc
  simp [UInt8.le_iff_toNat_le, UInt8.lt_iff_toNat_lt, hoctet c hc, hlow, hhigh]

/-- A visible token is found again in the header that shows it. -/
theorem header?_bearing {r : Request} {token : String}
    (hheader : r.headers.lookup "authorization" = some (bearing token))
    (hvisible : ∀ c ∈ token.toList, Visible c) :
    r.header? "authorization" = some ("Bearer " ++ token) := by
  have hscheme : ∀ c ∈ bearerScheme, c = ' ' ∨ Visible c := by
    simp [bearerScheme, Visible]
  unfold Request.header?
  rw [hheader, Option.bind_some, bearing, visibleText?_octets]
  intro c hc
  rw [toList_bearer, List.mem_append] at hc
  rcases hc with hc | hc
  · exact hscheme c hc
  · exact Or.inr (hvisible c hc)

theorem bearerToken?_bearing {token : String} (hne : token.toList ≠ [])
    (hvisible : ∀ c ∈ token.toList, Visible c) :
    bearerToken? ("Bearer " ++ token) = some token := by
  have hspace : ' ' ∉ token.toList := fun h => absurd (hvisible ' ' h) (by decide)
  have htext : token ≠ "" := by rwa [ne_eq, ← String.toList_eq_nil_iff]
  exact bearerToken?_eq_some_iff.mpr ⟨rfl, htext, hspace⟩

/-- Every principal that the directory knows can be let in: the service issues a token for
it, and every request that shows the token is let in when it is looked at. -/
theorem issued_is_borne (s : Service) (hkey : s.signer.key.refusal? = none)
    (hsound : s.signer.key.Sound) (supply : Supply) (w : World) {p : Principal}
    (hfind : w.memory.directory.users.find? p.id = some p)
    (hepoch : 0 ≤ (supply.clock w.calls).nanos)
    (hcalendar : ((supply.clock w.calls).add? (900 * 1000000000)).isSome) :
    ∃ token, s.signer.issue? p (supply.clock w.calls) = some (.ok token) ∧
      ∀ r : Request, r.headers.lookup "authorization" = some (bearing token) →
        Bears s supply w r p := by
  obtain ⟨token, c, hissue, hverify, huser, horganization⟩ :=
    Signer.issued_is_accepted hkey hsound p hepoch hcalendar
  obtain ⟨hne, hvisible⟩ := Signer.visible_of_open (Signer.verify_eq_ok_iff.mp hverify).1
  refine ⟨token, hissue, fun r hr => ?_⟩
  refine ⟨_, token, c, header?_bearing hr hvisible, bearerToken?_bearing hne hvisible, hverify, ?_,
    horganization.symm⟩
  rw [huser]
  exact hfind

end Api

end TenantAuth
