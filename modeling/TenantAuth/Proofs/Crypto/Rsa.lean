-- What signing and checking have to do with each other: a key whose exponents
-- undo each other makes signatures that its public half accepts.

import Mathlib.FieldTheory.Finite.Basic
import Mathlib.NumberTheory.LucasLehmer
import TenantAuth.Crypto.Rsa

namespace TenantAuth

/-! ## Rows of octets -/

namespace Octets

/-- Reading back the octets of a number gives what is left of it. -/
theorem toNat_ofNat (k n : Nat) : toNat (ofNat k n) = n % 256 ^ k := by
  induction k generalizing n with
  | zero => simp [ofNat, toNat, Nat.mod_one]
  | succ k ih =>
    have hb : (UInt8.ofNat n).toNat = n % 256 := by simp
    have hp : 256 ^ (k + 1) = 256 * 256 ^ k := Nat.pow_succ'
    rw [ofNat, toNat_append_singleton, ih, hb, hp, Nat.mod_mul, Nat.add_comm]

theorem toNat_append (as bs : List UInt8) :
    toNat (as ++ bs) = 256 ^ bs.length * toNat as + toNat bs := by
  induction bs using List.reverseRecOn with
  | nil => simp [toNat]
  | append_singleton bs b ih =>
    rw [← List.append_assoc, toNat_append_singleton, toNat_append_singleton, ih,
      List.length_append, List.length_singleton, Nat.pow_succ']
    ring

theorem toNat_lt (bs : List UInt8) : toNat bs < 256 ^ bs.length := by
  induction bs using List.reverseRecOn with
  | nil => simp [toNat]
  | append_singleton bs b ih =>
    have hb := b.toNat_lt
    rw [toNat_append_singleton, List.length_append, List.length_singleton, Nat.pow_succ']
    omega

theorem pow_count_le {n : Nat} (h : n ≠ 0) : 256 ^ (count n - 1) ≤ n := by
  have hpow : 256 ^ (n.log2 / 8) = 2 ^ (8 * (n.log2 / 8)) := by
    rw [Nat.pow_mul]
  rw [count, if_neg h, Nat.add_sub_cancel, hpow]
  calc 2 ^ (8 * (n.log2 / 8)) ≤ 2 ^ n.log2 := Nat.pow_le_pow_right (by decide) (by omega)
    _ ≤ n := Nat.log2_self_le h

theorem lt_pow_count (n : Nat) : n < 256 ^ count n := by
  by_cases h : n = 0
  · subst h
    decide
  have hpow : 256 ^ (n.log2 / 8 + 1) = 2 ^ (8 * (n.log2 / 8 + 1)) := by
    rw [Nat.pow_mul]
  rw [count, if_neg h, hpow]
  calc n < 2 ^ (n.log2 + 1) := Nat.lt_log2_self
    _ ≤ 2 ^ (8 * (n.log2 / 8 + 1)) := Nat.pow_le_pow_right (by decide) (by omega)

end Octets

theorem Sha256.length_hash (bs : List UInt8) : (Sha256.hash bs).length = 32 := by
  simp [Sha256.hash, Sha256.Digest.toBytes]

namespace Rsa

/-! ## Powers -/

theorem powModFrom_eq {m fuel base e acc : Nat} (he : e < 2 ^ fuel) (hacc : acc % m = acc) :
    powModFrom m fuel base e acc = acc * base ^ e % m := by
  induction fuel generalizing base e acc with
  | zero =>
    obtain rfl : e = 0 := by omega
    rw [powModFrom, Nat.pow_zero, Nat.mul_one, hacc]
  | succ fuel ih =>
    rw [powModFrom]
    split
    · next h => rw [h, Nat.pow_zero, Nat.mul_one, hacc]
    have hhalf : e / 2 < 2 ^ fuel := by omega
    have hsquare : base ^ e = (base * base) ^ (e / 2) * base ^ (e % 2) := by
      rw [← Nat.pow_two, ← Nat.pow_mul, ← Nat.pow_add, Nat.div_add_mod]
    split
    · next hodd =>
      rw [ih hhalf (Nat.mod_mod _ _), hsquare, hodd, Nat.pow_one]
      have hmod : acc * base % m * (base * base % m) ^ (e / 2)
          ≡ acc * base * (base * base) ^ (e / 2) [MOD m] :=
        (Nat.mod_modEq _ m).mul ((Nat.mod_modEq _ m).pow _)
      calc acc * base % m * (base * base % m) ^ (e / 2) % m
          = acc * base * (base * base) ^ (e / 2) % m := hmod
        _ = acc * ((base * base) ^ (e / 2) * base) % m := by ring_nf
    · next heven =>
      rw [ih hhalf hacc, hsquare, show e % 2 = 0 by omega, Nat.pow_zero, Nat.mul_one]
      exact (Nat.ModEq.refl acc).mul ((Nat.mod_modEq _ m).pow _)

theorem powMod_eq (base e m : Nat) : powMod base e m = base ^ e % m := by
  rw [powMod, powModFrom_eq Nat.lt_log2_self (Nat.mod_mod _ _)]
  have h : 1 % m * (base % m) ^ e ≡ 1 * base ^ e [MOD m] :=
    (Nat.mod_modEq 1 m).mul ((Nat.mod_modEq base m).pow e)
  rw [Nat.one_mul] at h
  exact h

/-! ## The block that is signed -/

theorem length_block {size : Nat} (h : 54 ≤ size) (message : List UInt8) :
    (block size message).length = size := by
  simp only [block, List.length_cons, List.length_append, List.length_replicate,
    Sha256.length_hash, digestHead, List.length_nil]
  omega

/-- The block begins with a zero, so it is less than any number as long as it. -/
theorem block_lt {size : Nat} (h : 54 ≤ size) (message : List UInt8) :
    Octets.toNat (block size message) < 256 ^ (size - 1) := by
  have hlen := length_block h message
  obtain ⟨rest, hrest⟩ : ∃ rest, block size message = [0] ++ rest := ⟨_, rfl⟩
  rw [hrest, List.length_append, List.length_singleton] at hlen
  rw [hrest, Octets.toNat_append, show Octets.toNat [0] = 0 from rfl, Nat.mul_zero, Nat.zero_add,
    show size - 1 = rest.length by omega]
  exact Octets.toNat_lt rest

/-! ## What a signature is -/

/-- The power of a signature is the block of its message. -/
structure PublicKey.Signs (k : PublicKey) (message signature : List UInt8) : Prop where
  large : 2048 ≤ 8 * k.size
  bounded : k.bits ≤ 8192
  length : signature.length = k.size
  below : Octets.toNat signature < k.modulus
  power : Octets.toNat signature ^ k.exponent % k.modulus = Octets.toNat (block k.size message)

theorem PublicKey.verifies_iff {k : PublicKey} {message signature : List UInt8} :
    k.verifies message signature = true ↔ k.Signs message signature := by
  simp only [verifies, powMod_eq, Bool.and_eq_true, decide_eq_true_eq, beq_iff_eq]
  constructor
  · rintro ⟨⟨⟨⟨hlarge, hbounded⟩, hlength⟩, hbelow⟩, hpower⟩
    exact ⟨hlarge, hbounded, hlength, hbelow, hpower⟩
  · rintro ⟨hlarge, hbounded, hlength, hbelow, hpower⟩
    exact ⟨⟨⟨⟨hlarge, hbounded⟩, hlength⟩, hbelow⟩, hpower⟩

/-! ## Keys that work -/

namespace PrivateKey

/-- What is signed with a key is accepted under its public half. -/
def Sound (k : PrivateKey) : Prop :=
  ∀ message signature, k.sign message = .ok signature →
    k.publicKey.verifies message signature = true

theorem size_of_refusal? {k : PrivateKey} (h : k.refusal? = none) :
    256 ≤ k.publicKey.size ∧ k.publicKey.bits ≤ 4096 := by
  rw [refusal?] at h
  split at h
  · simp at h
  split at h
  · simp at h
  · next hsmall hlarge => exact ⟨by omega, by omega⟩

theorem block_lt_modulus {k : PrivateKey} (h : k.refusal? = none) (message : List UInt8) :
    Octets.toNat (block k.publicKey.size message) < k.modulus := by
  have hsize := (size_of_refusal? h).1
  have hne : k.modulus ≠ 0 := by
    intro hzero
    have hcount : k.publicKey.size = 0 := by
      rw [PublicKey.size, publicKey, hzero]
      rfl
    omega
  calc Octets.toNat (block k.publicKey.size message)
      < 256 ^ (k.publicKey.size - 1) := block_lt (by omega) message
    _ ≤ k.modulus := Octets.pow_count_le hne

/-- A key is sound if its exponents undo each other below its modulus. -/
theorem sound_of_undo {k : PrivateKey}
    (h : ∀ x < k.modulus, (x ^ k.secretExponent % k.modulus) ^ k.exponent % k.modulus = x) :
    k.Sound := by
  intro message signature hsign
  rw [sign] at hsign
  cases hrefusal : k.refusal? with
  | some r => simp [hrefusal] at hsign
  | none =>
    simp only [hrefusal, Except.ok.injEq] at hsign
    have hblock := block_lt_modulus hrefusal message
    obtain ⟨hsize, hbits⟩ := size_of_refusal? hrefusal
    rw [powMod_eq] at hsign
    have hpower : Octets.toNat (block k.publicKey.size message) ^ k.secretExponent % k.modulus
        < k.modulus := Nat.mod_lt _ (by omega)
    have hback : Octets.toNat signature
        = Octets.toNat (block k.publicKey.size message) ^ k.secretExponent % k.modulus := by
      rw [← hsign, Octets.toNat_ofNat, Nat.mod_eq_of_lt]
      exact Nat.lt_trans hpower (Octets.lt_pow_count k.modulus)
    have hlen : signature.length = k.publicKey.size := by
      rw [← hsign, Octets.length_ofNat]
    refine PublicKey.verifies_iff.2 ⟨by omega, by omega, hlen, ?_, ?_⟩
    · rw [hback]
      exact hpower
    · rw [hback]
      exact h _ hblock

/-- Below a prime, a number is its own power for exponents one over a multiple of
the prime less one. -/
theorem pow_modEq_self {p : Nat} (hp : p.Prime) (x k : Nat) :
    x ^ (1 + k * (p - 1)) ≡ x [MOD p] := by
  by_cases hdvd : p ∣ x
  · have hx : x ≡ 0 [MOD p] := (Nat.modEq_zero_iff_dvd).2 hdvd
    have hpow : x ^ (1 + k * (p - 1)) ≡ 0 [MOD p] :=
      (Nat.modEq_zero_iff_dvd).2 (dvd_pow hdvd (by omega))
    exact hpow.trans hx.symm
  · have hcoprime : x.Coprime p := ((Nat.Prime.coprime_iff_not_dvd hp).2 hdvd).symm
    have hone : x ^ (p - 1) ≡ 1 [MOD p] := by
      have h := Nat.ModEq.pow_totient hcoprime
      rwa [Nat.totient_prime hp] at h
    have hpow := (hone.pow k).mul_left x
    rw [Nat.one_pow, Nat.mul_one, ← Nat.pow_mul, Nat.mul_comm (p - 1) k] at hpow
    rwa [Nat.pow_add, Nat.pow_one]

/-- Keys of two primes are sound when the product of their exponents leaves one
over the product of the primes less one each. -/
theorem sound_of_primes {p q e d : Nat} (hp : p.Prime) (hq : q.Prime) (hne : p ≠ q)
    (hed : e * d % ((p - 1) * (q - 1)) = 1) : (PrivateKey.mk (p * q) e d).Sound := by
  apply sound_of_undo
  intro x hx
  change x < p * q at hx
  change (x ^ d % (p * q)) ^ e % (p * q) = x
  obtain ⟨k, hk⟩ : ∃ k, d * e = 1 + k * ((p - 1) * (q - 1)) := by
    have hdiv := Nat.mod_add_div (e * d) ((p - 1) * (q - 1))
    rw [hed] at hdiv
    refine ⟨e * d / ((p - 1) * (q - 1)), ?_⟩
    rw [Nat.mul_comm d e, Nat.mul_comm (e * d / _)]
    exact hdiv.symm
  have hmodp : x ^ (d * e) ≡ x [MOD p] := by
    rw [hk, show k * ((p - 1) * (q - 1)) = k * (q - 1) * (p - 1) by ring]
    exact pow_modEq_self hp x _
  have hmodq : x ^ (d * e) ≡ x [MOD q] := by
    rw [hk, show k * ((p - 1) * (q - 1)) = k * (p - 1) * (q - 1) by ring]
    exact pow_modEq_self hq x _
  have hcoprime : p.Coprime q := (Nat.coprime_primes hp hq).2 hne
  have hmod : x ^ (d * e) ≡ x [MOD p * q] :=
    (Nat.modEq_and_modEq_iff_modEq_mul hcoprime).1 ⟨hmodp, hmodq⟩
  calc (x ^ d % (p * q)) ^ e % (p * q)
      = (x ^ d) ^ e % (p * q) := (Nat.mod_modEq _ _).pow e
    _ = x ^ (d * e) % (p * q) := by rw [← Nat.pow_mul]
    _ = x % (p * q) := hmod
    _ = x := Nat.mod_eq_of_lt hx

/-- A key of 2330 bits, of two primes of Mersenne. -/
def mersenne : PrivateKey := ofPrimes (2 ^ 127 - 1) (2 ^ 2203 - 1) 65537

theorem refusal?_mersenne : mersenne.refusal? = none := by decide +kernel

theorem sound_mersenne : mersenne.Sound := by
  have hp : (2 ^ 127 - 1).Prime := lucas_lehmer_sufficiency 127 (by decide) (by norm_num)
  have hq : (2 ^ 2203 - 1).Prime := lucas_lehmer_sufficiency 2203 (by decide) (by norm_num)
  have hed : 65537 * inverse 65537 ((2 ^ 127 - 1 - 1) * (2 ^ 2203 - 1 - 1))
      % ((2 ^ 127 - 1 - 1) * (2 ^ 2203 - 1 - 1)) = 1 := by decide +kernel
  exact sound_of_primes hp hq (by decide +kernel) hed

end PrivateKey

end Rsa

end TenantAuth
