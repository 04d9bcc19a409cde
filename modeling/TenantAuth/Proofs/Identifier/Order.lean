-- Ids stand in the order of their texts. Digits of a fixed number of places compare as the numbers
-- they write, and hyphens that stand at the same places leave the order as it is.

import Mathlib.Tactic.Tauto
import TenantAuth.Proofs.Identifier.Spelling

namespace TenantAuth

namespace Text

/-- Of two texts with fronts of one length, the fronts are compared first. -/
theorem append_lt_append_iff {a b c d : List Char} (h : a.length = b.length) :
    a ++ c < b ++ d ↔ a < b ∨ a = b ∧ c < d := by
  induction a generalizing b with
  | nil =>
    obtain rfl := List.eq_nil_of_length_eq_zero h.symm
    simp
  | cons x a ih =>
    obtain ⟨y, b, rfl⟩ := List.exists_cons_of_length_eq_add_one h.symm
    rw [List.cons_append, List.cons_append, List.cons_lt_cons_iff, List.cons_lt_cons_iff,
      ih (Nat.succ.inj h), List.cons.injEq]
    tauto

/-- What stands between groups of the same lengths does not count. -/
theorem intercalate_lt_intercalate_iff (separator : List Char) {gs hs : List (List Char)}
    (h : gs.map List.length = hs.map List.length) :
    separator.intercalate gs < separator.intercalate hs ↔ gs.flatten < hs.flatten := by
  induction gs generalizing hs with
  | nil =>
    obtain rfl := List.map_eq_nil_iff.1 h.symm
    rfl
  | cons g gs ih =>
    obtain ⟨g', hs, rfl, hg, hgs⟩ := List.map_eq_cons_iff.1 h.symm
    cases gs with
    | nil =>
      obtain rfl := List.map_eq_nil_iff.1 hgs
      simp
    | cons next gs =>
      obtain ⟨next', hs, rfl, -, -⟩ := List.map_eq_cons_iff.1 hgs
      have hbehind : ∀ a b : List Char, separator ++ a < separator ++ b ↔ a < b := fun a b => by
        have hirrefl : ¬ separator < separator := List.lt_irrefl separator
        simp only [append_lt_append_iff rfl, hirrefl, false_or, true_and]
      rw [List.intercalate_cons_cons, List.intercalate_cons_cons, List.append_assoc,
        List.append_assoc, append_lt_append_iff hg.symm, hbehind, ih hgs.symm,
        ← append_lt_append_iff hg.symm]
      rfl

end Text

namespace Uuid

open TenantAuth.Text

variable {cs ds es ts : List Char} {u v : Uuid}

/-! ## Digits -/

theorem hexDigits_inj {k m n : Nat} (hm : m < 16 ^ k) (hn : n < 16 ^ k) :
    hexDigits k m = hexDigits k n ↔ m = n := by
  constructor
  · intro h
    have hread := readHex_hexDigits k m 0
    rw [h, readHex_hexDigits, Nat.mod_eq_of_lt hm, Nat.mod_eq_of_lt hn] at hread
    exact (Nat.add_left_cancel (Option.some.inj hread)).symm
  · rintro rfl
    rfl

/-- Digits of as many places compare as the numbers that they write. -/
theorem hexDigits_lt_iff {k m n : Nat} (hm : m < 16 ^ k) (hn : n < 16 ^ k) :
    hexDigits k m < hexDigits k n ↔ m < n := by
  induction k generalizing m n with
  | zero =>
    have hm : m = 0 := Nat.lt_one_iff.1 hm
    have hn : n = 0 := Nat.lt_one_iff.1 hn
    subst hm hn
    simp [hexDigits]
  | succ k ih =>
    rw [Nat.pow_succ] at hm hn
    have hm' : m / 16 < 16 ^ k := by omega
    have hn' : n / 16 < 16 ^ k := by omega
    have hlast := hexDigit_lt_hexDigit_iff (m % 16) (Nat.mod_lt m (by decide)) (n % 16)
      (Nat.mod_lt n (by decide))
    -- The last digits count where all digits in front of them agree.
    rw [hexDigits, hexDigits, append_lt_append_iff (by simp), ih hm' hn', hexDigits_inj hm' hn',
      List.cons_lt_cons_iff, hlast]
    simp only [List.not_lt_nil, and_false, or_false]
    omega

/-! ## Texts -/

theorem Hyphenated.lt_iff (h : Hyphenated ds cs) (h' : Hyphenated es ts) : cs < ts ↔ ds < es := by
  obtain ⟨gs, hgs, rfl, rfl⟩ := h
  obtain ⟨hs, hhs, rfl, rfl⟩ := h'
  exact intercalate_lt_intercalate_iff ['-'] (hgs.trans hhs.symm)

theorem toText_lt_iff : u.toText < v.toText ↔ u.value < v.value := by
  have hlt : ∀ w : Uuid, w.value < 16 ^ 32 := fun w => w.lt_size
  rw [String.lt_iff, toText, toText, String.toList_ofList, String.toList_ofList,
    (hyphenated_chars u).lt_iff (hyphenated_chars v), hexDigits_lt_iff (hlt u) (hlt v)]

theorem toText_le_iff : u.toText ≤ v.toText ↔ u ≤ v := by
  have hle : u ≤ v ↔ u.value ≤ v.value := Iff.rfl
  rw [hle, ← String.not_lt, toText_lt_iff, Nat.not_lt]

end Uuid

end TenantAuth
