-- Texts that are compared octet by octet, as a database compares them, stand in the order
-- in which they are compared character by character.

import Mathlib.Tactic.SplitIfs
import TenantAuth.Proofs.Text.Utf8

namespace TenantAuth.Text.Utf8

/-! ## One character -/

/-- The first octet decides, where there are two of them. -/
theorem octets_lt_iff {a b : Nat} (ha : a < 256) (hb : b < 256) {bs bs' : List UInt8} :
    UInt8.ofNat a :: bs < UInt8.ofNat b :: bs' ↔ a < b ∨ a = b ∧ bs < bs' := by
  rw [List.cons_lt_cons_iff, UInt8.lt_iff_toNat_lt, ← UInt8.toNat_inj,
    UInt8.toNat_ofNat_of_lt' ha, UInt8.toNat_ofNat_of_lt' hb]

/-- Of two numbers in digits of six bits the first digit that differs decides. -/
theorem digits_of_lt {m n : Nat} (h : m < n) :
    m / 262144 < n / 262144 ∨ m / 262144 = n / 262144 ∧
      (m / 4096 % 64 < n / 4096 % 64 ∨ m / 4096 % 64 = n / 4096 % 64 ∧
        (m / 64 % 64 < n / 64 % 64 ∨ m / 64 % 64 = n / 64 % 64 ∧ m % 64 < n % 64)) := by
  have hdigit : ∀ k l, k < l → k / 64 < l / 64 ∨ k / 64 = l / 64 ∧ k % 64 < l % 64 := by omega
  have hquotients : ∀ k, k / 4096 = k / 64 / 64 ∧ k / 262144 = k / 64 / 64 / 64 := by omega
  rw [(hquotients m).1, (hquotients m).2, (hquotients n).1, (hquotients n).2]
  rcases hdigit m n h with h | ⟨h, hlast⟩
  · rcases hdigit _ _ h with h | ⟨h, hthird⟩
    · rcases hdigit _ _ h with h | ⟨h, hsecond⟩
      · exact Or.inl h
      · exact Or.inr ⟨h, Or.inl hsecond⟩
    · rw [h]
      exact Or.inr ⟨rfl, Or.inr ⟨rfl, Or.inl hthird⟩⟩
  · rw [h]
    exact Or.inr ⟨rfl, Or.inr ⟨rfl, Or.inr ⟨rfl, hlast⟩⟩⟩

/-- The octets of a greater character come later, whatever stands behind them. -/
theorem encodeChar_lt {c d : Char} (h : c < d) (rest rest' : List UInt8) :
    String.utf8EncodeChar c ++ rest < String.utf8EncodeChar d ++ rest' := by
  have hlt : c.toNat < d.toNat := h
  have hdigits := digits_of_lt hlt
  have hc := toNat_valid c
  have hd := toNat_valid d
  have hc₃ : c.toNat / 262144 % 8 = c.toNat / 262144 := by omega
  have hd₃ : d.toNat / 262144 % 8 = d.toNat / 262144 := by omega
  unfold String.utf8EncodeChar
  simp only [← Char.toNat.eq_1, hc₃, hd₃]
  -- the greater character has as many octets, or more of them and a greater first one
  split_ifs
  all_goals
    simp only [List.cons_append, List.nil_append]
    first
    | omega
    | simp (disch := omega) only [octets_lt_iff]
      omega

/-! ## Texts -/

theorem encode_lt {cs ds : List Char} (h : cs < ds) : encode cs < encode ds := by
  induction h with
  | nil =>
    rw [encode_cons]
    obtain ⟨b, bs, hoctets⟩ := List.exists_cons_of_ne_nil String.utf8EncodeChar_ne_nil
    rw [hoctets]
    exact List.nil_lt_cons b _
  | rel h =>
    rw [encode_cons, encode_cons]
    exact encodeChar_lt h _ _
  | cons h ih =>
    rw [encode_cons, encode_cons]
    exact List.append_left_lt ih

theorem encode_le_encode_iff {s t : String} : encode s.toList ≤ encode t.toList ↔ s ≤ t := by
  constructor
  · intro h
    rw [← String.not_lt]
    exact fun hlt => List.not_lt.mpr h (encode_lt hlt)
  · intro h
    by_cases hle : t ≤ s
    · rw [String.le_antisymm h hle]
      exact List.le_refl _
    · exact List.le_of_lt (encode_lt (String.not_le.mp hle))

end TenantAuth.Text.Utf8
