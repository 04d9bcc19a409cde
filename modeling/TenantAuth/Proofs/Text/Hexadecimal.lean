-- Which characters are hexadecimal digits, and what each of them counts. A digit counts the same
-- in either case, and its lower-case form is the one that is written.

import Mathlib.Tactic.SplitIfs
import TenantAuth.Text.Digit

namespace TenantAuth.Text

/-- A hexadecimal digit, in either case. -/
def IsHexDigit (c : Char) : Prop :=
  ('0' ≤ c ∧ c ≤ '9') ∨ ('a' ≤ c ∧ c ≤ 'f') ∨ ('A' ≤ c ∧ c ≤ 'F')

variable {c : Char} {d : Nat}

theorem isSome_hexValue?_iff : (hexValue? c).isSome = true ↔ IsHexDigit c := by
  have hle : ∀ a b : Char, a ≤ b ↔ a.toNat ≤ b.toNat := fun _ _ => Iff.rfl
  simp only [IsHexDigit, hle, hexValue?]
  split_ifs <;> simp <;> omega

/-! ## Case -/

theorem toNat_toLower (c : Char) :
    c.toLower.toNat = if 65 ≤ c.toNat ∧ c.toNat ≤ 90 then c.toNat + 32 else c.toNat := by
  have hcapital : c.val ≥ 'A'.val ∧ c.val ≤ 'Z'.val ↔ 65 ≤ c.toNat ∧ c.toNat ≤ 90 := Iff.rfl
  unfold Char.toLower
  simp only [hcapital]
  split
  · next h =>
    have hadd : (c.val + ('a'.val - 'A'.val)).toNat = c.val.toNat + 32 := by
      rw [UInt32.toNat_add]
      exact Nat.mod_eq_of_lt (Nat.lt_of_le_of_lt (Nat.add_le_add_right h.2 32) (by decide))
    exact hadd
  · rfl

theorem hexValue?_toLower (c : Char) : hexValue? c.toLower = hexValue? c := by
  simp only [hexValue?, toNat_toLower]
  split_ifs <;> first | omega | rfl

/-- A character counts what the digit counts that it is in lower case. -/
theorem hexValue?_eq_some_iff : hexValue? c = some d ↔ d < 16 ∧ c.toLower = hexDigit d := by
  constructor
  · intro h
    have hcapital : ¬ (65 ≤ c.toLower.toNat ∧ c.toLower.toNat ≤ 90) := by
      rw [toNat_toLower]
      split_ifs <;> omega
    rw [← hexValue?_toLower] at h
    rw [← Char.ofNat_toNat c.toLower, hexDigit]
    simp only [hexValue?] at h
    split_ifs at h with h09 haf hAF
    · obtain rfl := Option.some.inj h
      rw [if_pos (by omega), Nat.add_sub_cancel' h09.1]
      exact ⟨by omega, rfl⟩
    · obtain rfl := Option.some.inj h
      rw [if_neg (by omega), Nat.add_sub_cancel' (by omega)]
      exact ⟨by omega, rfl⟩
    · exact absurd ⟨hAF.1, by omega⟩ hcapital
  · rintro ⟨hd, h⟩
    rw [← hexValue?_toLower, h, hexValue?_hexDigit d hd]

/-! ## Digits that are written -/

theorem digitChar_eq_hexDigit : ∀ d < 16, Nat.digitChar d = hexDigit d := by decide

theorem hexDigit_lt_hexDigit_iff : ∀ a < 16, ∀ b < 16, hexDigit a < hexDigit b ↔ a < b := by
  decide

end TenantAuth.Text
