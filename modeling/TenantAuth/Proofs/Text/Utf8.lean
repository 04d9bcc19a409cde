-- The octets of a text are read back as that text: no character of it comes out
-- broken, whatever stands behind it.

import TenantAuth.Text.Utf8

namespace TenantAuth.Text.Utf8

/-! ## One octet -/

theorem decodeFrom_octet {out : List (Option Char)} {p : Option Pending} {b : Nat}
    {bs : List UInt8} (h : b < 256) :
    decodeFrom out p (UInt8.ofNat b :: bs) = decodeFrom (feed out p b).1 (feed out p b).2 bs := by
  have hb : (UInt8.ofNat b).toNat = b := UInt8.toNat_ofNat_of_lt' h
  cases p with
  | none => rw [decodeFrom, hb]
  | some p => rw [decodeFrom, hb]

theorem feed_middle {out : List (Option Char)} {n low high bits b : Nat} (hlow : low ≤ b)
    (hhigh : b ≤ high) :
    feed out (some ⟨n + 1, low, high, bits⟩) b
      = (out, some ⟨n, 0x80, 0xBF, 64 * bits + (b - 0x80)⟩) := by
  simp [feed, hlow, hhigh]

theorem feed_last {out : List (Option Char)} {low high bits b : Nat} (hlow : low ≤ b)
    (hhigh : b ≤ high) :
    feed out (some ⟨0, low, high, bits⟩) b
      = (some (Char.ofNat (64 * bits + (b - 0x80))) :: out, none) := by
  simp [feed, hlow, hhigh]

theorem start_of_two {h : Nat} (hlow : 2 ≤ h) (hhigh : h < 32) :
    start (h + 0xC0) = .pending ⟨0, 0x80, 0xBF, h⟩ := by
  rw [start, if_neg (by omega), if_neg (by omega), if_pos (by omega), Nat.add_sub_cancel]

/-- The first octet of three. The second one is bounded so that nothing is
written longer than it must be, and nothing is half of a surrogate pair. -/
theorem start_of_three {h m : Nat} (hh : h < 16) (hm : m < 64) (hshort : 32 ≤ 64 * h + m)
    (hpair : 64 * h + m < 864 ∨ 896 ≤ 64 * h + m) :
    ∃ low high, start (h + 0xE0) = .pending ⟨1, low, high, h⟩ ∧ low ≤ m + 0x80
      ∧ m + 0x80 ≤ high := by
  rw [start, if_neg (by omega), if_neg (by omega), if_neg (by omega)]
  by_cases h0 : h = 0
  · subst h0
    exact ⟨0xA0, 0xBF, rfl, by omega, by omega⟩
  rw [if_neg (by omega)]
  by_cases hD : h = 13
  · subst hD
    exact ⟨0x80, 0x9F, rfl, by omega, by omega⟩
  rw [if_neg (by omega), if_pos (by omega), Nat.add_sub_cancel]
  exact ⟨0x80, 0xBF, rfl, by omega, by omega⟩

/-- The first octet of four. The second one is bounded so that nothing is written
longer than it must be, and nothing lies above the last character. -/
theorem start_of_four {h m : Nat} (hm : m < 64) (hshort : 16 ≤ 64 * h + m)
    (hlast : 64 * h + m < 272) :
    ∃ low high, start (h + 0xF0) = .pending ⟨2, low, high, h⟩ ∧ low ≤ m + 0x80
      ∧ m + 0x80 ≤ high := by
  rw [start, if_neg (by omega), if_neg (by omega), if_neg (by omega), if_neg (by omega),
    if_neg (by omega), if_neg (by omega)]
  by_cases h0 : h = 0
  · subst h0
    exact ⟨0x90, 0xBF, rfl, by omega, by omega⟩
  rw [if_neg (by omega)]
  by_cases h4 : h = 4
  · subst h4
    exact ⟨0x80, 0x8F, rfl, by omega, by omega⟩
  rw [if_pos (by omega), Nat.add_sub_cancel]
  exact ⟨0x80, 0xBF, rfl, by omega, by omega⟩

/-! ## One character -/

/-- A number of a character: below the surrogates or above them. -/
theorem toNat_valid (c : Char) : c.toNat < 0xD800 ∨ 0xDFFF < c.toNat ∧ c.toNat < 0x110000 :=
  c.valid

/-- The octets of a character are read as that character. -/
theorem decodeFrom_char (c : Char) (out : List (Option Char)) (rest : List UInt8) :
    decodeFrom out none (String.utf8EncodeChar c ++ rest)
      = decodeFrom (some c :: out) none rest := by
  have hvalid := toNat_valid c
  unfold String.utf8EncodeChar
  simp only [← Char.toNat.eq_1]
  -- one octet, two, three and four
  split
  · next h1 =>
    rw [List.singleton_append, decodeFrom_octet (by omega)]
    simp only [feed, feedFresh, start]
    rw [if_pos (by omega), Char.ofNat_toNat]
  split
  · next h1 h2 =>
    simp only [List.cons_append, List.nil_append]
    rw [decodeFrom_octet (by omega)]
    simp only [feed, feedFresh, start_of_two (h := c.toNat / 64 % 32) (by omega) (by omega)]
    rw [decodeFrom_octet (by omega), feed_last (by omega) (by omega)]
    rw [show 64 * (c.toNat / 64 % 32) + (c.toNat % 64 + 128 - 0x80) = c.toNat by omega,
      Char.ofNat_toNat]
  split
  · next h1 h2 h3 =>
    obtain ⟨low, high, hstart, hlow, hhigh⟩ := start_of_three (h := c.toNat / 4096 % 16)
      (m := c.toNat / 64 % 64) (by omega) (by omega) (by omega) (by omega)
    simp only [List.cons_append, List.nil_append]
    rw [decodeFrom_octet (by omega)]
    simp only [feed, feedFresh, hstart]
    rw [decodeFrom_octet (by omega), feed_middle hlow hhigh]
    rw [decodeFrom_octet (by omega), feed_last (by omega) (by omega)]
    rw [show 64 * (64 * (c.toNat / 4096 % 16) + (c.toNat / 64 % 64 + 128 - 0x80))
        + (c.toNat % 64 + 128 - 0x80) = c.toNat by omega, Char.ofNat_toNat]
  · next h1 h2 h3 =>
    obtain ⟨low, high, hstart, hlow, hhigh⟩ := start_of_four (h := c.toNat / 262144 % 8)
      (m := c.toNat / 4096 % 64) (by omega) (by omega) (by omega)
    simp only [List.cons_append, List.nil_append]
    rw [decodeFrom_octet (by omega)]
    simp only [feed, feedFresh, hstart]
    rw [decodeFrom_octet (by omega), feed_middle hlow hhigh]
    rw [decodeFrom_octet (by omega), feed_middle (by omega) (by omega)]
    rw [decodeFrom_octet (by omega), feed_last (by omega) (by omega)]
    rw [show 64 * (64 * (64 * (c.toNat / 262144 % 8) + (c.toNat / 4096 % 64 + 128 - 0x80))
        + (c.toNat / 64 % 64 + 128 - 0x80)) + (c.toNat % 64 + 128 - 0x80) = c.toNat by omega,
      Char.ofNat_toNat]

/-! ## Texts -/

theorem encode_cons (c : Char) (cs : List Char) :
    encode (c :: cs) = String.utf8EncodeChar c ++ encode cs := by
  simp [encode]

theorem decodeFrom_encode (cs : List Char) (out : List (Option Char)) :
    decodeFrom out none (encode cs) = out.reverse ++ cs.map some := by
  induction cs generalizing out with
  | nil => simp [encode, decodeFrom]
  | cons c cs ih =>
    rw [encode_cons, decodeFrom_char, ih]
    simp

theorem decode_encode (cs : List Char) : decode (encode cs) = cs.map some := by
  rw [decode, decodeFrom_encode, List.reverse_nil, List.nil_append]

end TenantAuth.Text.Utf8
