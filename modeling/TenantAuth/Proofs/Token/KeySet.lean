-- The published key is the key that tokens are checked with. The same two numbers are published in
-- three encodings, each of which gives them back; and the set of keys comes back from its text.

import TenantAuth.Proofs.Crypto.Der
import TenantAuth.Proofs.Json.Text
import TenantAuth.Proofs.Text.Base64
import TenantAuth.Proofs.Token.Verification
import TenantAuth.Token.KeySet

namespace TenantAuth

open TenantAuth.Text

/-! ## Texts -/

namespace PublishedKey

def members (k : PublishedKey) : List (String × Json String) :=
  [("kid", .string k.kid), ("kty", .string k.kty), ("alg", .string k.alg),
   ("use", .string k.purpose), ("n", .string k.n), ("e", .string k.e),
   ("x5c", Json.ofStrings k.x5c)]

theorem nodup_names (k : PublishedKey) : (k.members.map (·.1)).Nodup := by
  change fieldNames.Nodup
  decide

theorem numeric_toJson (k : PublishedKey) : k.toJson.Numeric :=
  ⟨trivial, trivial, trivial, trivial, trivial, trivial, Json.numeric_ofStrings _, trivial⟩

theorem ofJson?_toJson (k : PublishedKey) : ofJson? k.toJson.asRead = some k := by
  have hrecord : k.toJson.asRead.record? fieldNames
      = some (k.members.map fun m => some m.2.asRead) := Json.record?_asRead k.nodup_names
  rw [ofJson?, hrecord]
  simp only [members, List.map_cons, List.map_nil, Json.string?_asRead, Json.strings?_ofStrings,
    Option.bind_eq_bind, Option.bind_some]

end PublishedKey

namespace KeySet

def text (s : KeySet) : String := s.toJson.render

def ofText? (s : String) : Option KeySet := Json.readText ofJson? s

theorem numeric_toJson (s : KeySet) : s.toJson.Numeric := by
  refine ⟨Json.numericItems_iff.2 fun v hv => ?_, trivial⟩
  obtain ⟨k, -, rfl⟩ := List.mem_map.1 hv
  exact k.numeric_toJson

theorem ofJson?_toJson (s : KeySet) : ofJson? s.toJson.asRead = some s := by
  have hrecord : s.toJson.asRead.record? ["keys"]
      = some [some (Json.array (s.keys.map PublishedKey.toJson)).asRead] :=
    Json.record?_asRead (List.nodup_singleton _)
  rw [ofJson?, hrecord]
  simp only [Json.asRead_array, Json.array?, Option.bind_some,
    Json.mapM_asRead PublishedKey.ofJson?_toJson, Option.map_some]

/-- A set of keys that is written is read back. -/
theorem ofText?_text (s : KeySet) : ofText? s.text = some s := by
  rw [ofText?, text, Json.readText_render s.numeric_toJson, ofJson?_toJson]

end KeySet

/-! ## Numbers -/

namespace PublishedKey

/-- A text is a number's octets in base64, the most significant first and none of them left out or
put in front. Zero has one octet. -/
def TellsNumber (s : String) (n : Nat) : Prop :=
  ∃ octets, Base64.decodeUrl? s = some octets ∧ octets ≠ [] ∧
    (octets.head? = some 0 → octets = [0]) ∧ Octets.toNat octets = n

/-- A published key tells a key in each of its encodings. Of the last one that holds as far as
lengths can be written in it. -/
structure Tells (k : PublishedKey) (key : Rsa.PublicKey) : Prop where
  modulus : TellsNumber k.n key.modulus
  exponent : TellsNumber k.e key.exponent
  info : ∃ entry octets, k.x5c = [entry] ∧ Base64.decodeStandard? entry = some octets
    ∧ (octets.length < Der.limit → Der.publicKeyInfo? octets = some (key.modulus, key.exponent))

theorem tellsNumber_encodeUrl (n : Nat) :
    TellsNumber (Base64.encodeUrl (Octets.published n)) n := by
  refine ⟨_, Base64.decodeUrl?_encodeUrl _, ?_⟩
  unfold Octets.published
  split
  · next hzero =>
    subst hzero
    exact ⟨by simp, fun _ => rfl, rfl⟩
  · next hne =>
    have hvalue := Octets.toNat_magnitude n
    refine ⟨fun hnil => hne ?_, fun hhead => absurd hhead (Octets.head?_magnitude n), hvalue⟩
    rw [← hvalue, hnil]
    rfl

theorem tellsNumber_unique {s : String} {m n : Nat} (hm : TellsNumber s m) (hn : TellsNumber s n) :
    m = n := by
  obtain ⟨octets, hread, -, -, rfl⟩ := hm
  obtain ⟨octets', hread', -, -, rfl⟩ := hn
  rw [hread, Option.some.injEq] at hread'
  rw [hread']

theorem tells_ofKey (key : Rsa.PublicKey) : (ofKey key).Tells key :=
  ⟨tellsNumber_encodeUrl _, tellsNumber_encodeUrl _, _, _, rfl,
    Base64.decodeStandard?_encodeStandard _, Der.publicKeyInfo?_publicKeyInfo⟩

/-- No other key is told. -/
theorem tells_unique {k : PublishedKey} {key key' : Rsa.PublicKey} (h : k.Tells key)
    (h' : k.Tells key') : key = key' := by
  have hmodulus := tellsNumber_unique h.modulus h'.modulus
  have hexponent := tellsNumber_unique h.exponent h'.exponent
  cases key
  cases key'
  simp only at hmodulus hexponent
  rw [hmodulus, hexponent]

end PublishedKey

/-! ## The law -/

namespace Signer

/-- Of a signer only the public key counts in checking. -/
theorem verify_congr {s s' : Signer} (h : s'.key.publicKey = s.key.publicKey) (token : String)
    (now : Instant) : s'.verify token now = s.verify token now := by
  have hopen : s'.openToken token = s.openToken token := by
    unfold openToken
    rw [h]
  rw [verify, verify, hopen]

/-- A signer publishes one key. It tells modulus and exponent in base64 and, as far as lengths can
be written there, in DER; tokens are checked alike by everybody who has the key that is told, and
every token that is accepted is signed under it. The text of the set is read as the set. -/
theorem the_published_key_checks_the_tokens (s : Signer) :
    ∃ k, s.keySet.keys = [k] ∧ k.Tells s.key.publicKey
      ∧ (∀ s' : Signer, k.Tells s'.key.publicKey →
          ∀ token now, s'.verify token now = s.verify token now)
      ∧ (∀ key, k.Tells key → ∀ token now c, s.verify token now = .ok c →
          ∃ header payload signature octets, Cut token header payload signature
            ∧ signature = Base64.urlSafe.encode [] octets
            ∧ key.Signs (Utf8.encode (header ++ '.' :: payload)) octets)
      ∧ KeySet.ofText? s.keySet.text = some s.keySet := by
  have htells := PublishedKey.tells_ofKey s.key.publicKey
  refine ⟨_, rfl, htells, fun s' h token now => ?_, fun key h token now c hok => ?_,
    s.keySet.ofText?_text⟩
  · exact verify_congr (PublishedKey.tells_unique h htells) token now
  · obtain rfl := PublishedKey.tells_unique h htells
    obtain ⟨header, payload, signature, hcut, -, ⟨octets, hoctets, hsigns⟩, -⟩ :=
      authentic_of_open (verify_eq_ok_iff.1 hok).1
    exact ⟨header, payload, signature, octets, hcut, hoctets, hsigns⟩

/-- The key of two primes of Mersenne is read from what is published of it, whoever knows no more
of it checks tokens as its owner does, and some token is signed under it. -/
theorem the_mersenne_key_is_read :
    Der.publicKeyInfo?
        (Der.publicKeyInfo Rsa.PrivateKey.mersenne.modulus Rsa.PrivateKey.mersenne.exponent)
      = some (Rsa.PrivateKey.mersenne.modulus, Rsa.PrivateKey.mersenne.exponent)
    ∧ (∀ token now,
      (Signer.mk ⟨Rsa.PrivateKey.mersenne.modulus, Rsa.PrivateKey.mersenne.exponent, 0⟩).verify
          token now
        = (Signer.mk .mersenne).verify token now)
    ∧ ∃ message octets, Rsa.PrivateKey.mersenne.publicKey.Signs message octets := by
  have hlimit : (Der.publicKeyInfo Rsa.PrivateKey.mersenne.modulus
      Rsa.PrivateKey.mersenne.exponent).length < Der.limit := by decide +kernel
  have hrefusal := Rsa.PrivateKey.refusal?_mersenne
  have hsound := Rsa.PrivateKey.sound_mersenne
  generalize Rsa.PrivateKey.mersenne = key at hlimit hrefusal hsound ⊢
  obtain ⟨k, hk, htells, hverify, hsigned, -⟩ := the_published_key_checks_the_tokens ⟨key⟩
  refine ⟨?_, hverify ⟨key.modulus, key.exponent, 0⟩ htells, ?_⟩
  · obtain rfl := (List.singleton_inj.1 hk).symm
    obtain ⟨entry, octets, hentry, hoctets, hinfo⟩ := htells.info
    obtain rfl := (List.singleton_inj.1 hentry).symm
    rw [Base64.decodeStandard?_encodeStandard, Option.some.injEq] at hoctets
    subst hoctets
    exact hinfo hlimit
  · let c : Claims := ⟨⟨.ofNat 1⟩, ⟨.ofNat 2⟩, .owner, .epoch, .epoch, .latest⟩
    obtain ⟨token, -, hopen⟩ := sign_then_open (s := ⟨key⟩) (c := c) hrefusal hsound
      (by decide) (by decide)
    have hholds : c.cut.issuedAt < c.cut.expiresAt ∧ c.cut.notBefore ≤ .epoch
        ∧ Instant.epoch < c.cut.expiresAt := by decide
    obtain ⟨_, _, _, octets, -, -, hsigns⟩ :=
      hsigned _ htells token .epoch _ (verify_eq_ok_iff.2 ⟨hopen, hholds⟩)
    exact ⟨_, octets, hsigns⟩

end Signer

end TenantAuth
