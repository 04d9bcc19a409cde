-- Whole numbers as JSON writes them: what is written has the form of a number,
-- and reading it gives the number back.

import Mathlib.Algebra.Order.Ring.Int
import TenantAuth.Json.Printer
import TenantAuth.Json.Reader

namespace TenantAuth.Text

theorem valueOfDigits_toDigits (n : Nat) : valueOfDigits (Nat.toDigits 10 n) = n :=
  Nat.ofDigitChars_ten_toDigits

theorem all_isDigit_toDigits (n : Nat) : (Nat.toDigits 10 n).all Char.isDigit = true := by
  rw [List.all_eq_true]
  intro c hc
  exact Nat.isDigit_of_mem_toDigits (by decide) (by decide) hc

end TenantAuth.Text

namespace TenantAuth.Json

open TenantAuth.Text

namespace NumberState

/-! ## The form of a number -/

/-- The state after all characters of a number. -/
def after? : List Char → Option NumberState
  | [] => none
  | c :: cs => (first? c).bind fun s => cs.foldlM next? s

theorem after?_snoc {cs : List Char} (h : cs ≠ []) (c : Char) :
    after? (cs ++ [c]) = (after? cs).bind fun s => s.next? c := by
  cases cs with
  | nil => exact absurd rfl h
  | cons d ds =>
    simp only [List.cons_append, after?, List.foldlM_append, Option.bind_assoc]
    congr 1
    funext s
    congr 1
    funext s'
    simp

/-- A minus sign goes in front of a number without one. -/
theorem after?_minus {c : Char} {cs : List Char} (h : c.isDigit = true) :
    after? ('-' :: c :: cs) = after? (c :: cs) := by
  have hne : c ≠ '-' := by
    rintro rfl
    exact absurd h (by decide)
  have hfirst : next? minus c = first? c := by
    simp only [next?, first?, if_neg hne]
  have hminus : first? '-' = some minus := rfl
  simp only [after?, hminus, Option.bind_some, List.foldlM_cons, hfirst, Option.bind_eq_bind]

theorem integer_next?_digitChar {d : Nat} (h : d < 10) :
    next? integer d.digitChar = some integer := by
  have hall : ∀ d < 10, next? integer (Nat.digitChar d) = some integer := by decide
  exact hall d h

theorem after?_toDigits_of_pos {n : Nat} (h : 0 < n) :
    after? (Nat.toDigits 10 n) = some integer := by
  induction n using Nat.base_induction 10 (by decide) with
  | single m hm =>
    have hall : ∀ m < 10, 0 < m → after? [Nat.digitChar m] = some integer := by decide
    rw [Nat.toDigits_of_lt_base hm]
    exact hall m hm h
  | digit m k hk hm ih =>
    rw [← Nat.toDigits_append_toDigits (by decide) hm hk, Nat.toDigits_of_lt_base hk,
      after?_snoc Nat.toDigits_ne_nil, ih hm, Option.bind_some, integer_next?_digitChar hk]

end NumberState

open NumberState

/-- A text that has the form of a number. -/
def IsNumeral (text : List Char) : Prop := ∃ s, after? text = some s ∧ s.complete = true

theorem isNumeral_toDigits (n : Nat) : IsNumeral (Nat.toDigits 10 n) := by
  rcases Nat.eq_zero_or_pos n with rfl | h
  · exact ⟨.zero, rfl, rfl⟩
  · exact ⟨.integer, after?_toDigits_of_pos h, rfl⟩

theorem isNumeral_minus {n : Nat} (h : 0 < n) : IsNumeral ('-' :: Nat.toDigits 10 n) := by
  refine ⟨.integer, ?_, rfl⟩
  have hpos := after?_toDigits_of_pos h
  have hdigits := all_isDigit_toDigits n
  cases hds : Nat.toDigits 10 n with
  | nil => exact absurd hds Nat.toDigits_ne_nil
  | cons c cs =>
    rw [hds] at hpos hdigits
    rw [List.all_cons, Bool.and_eq_true] at hdigits
    rw [after?_minus hdigits.1, hpos]

/-! ## Reading back -/

theorem natOfDigits?_toDigits {n : Nat} (h : n < 10 ^ 20) :
    natOfDigits? (Nat.toDigits 10 n) = some n := by
  have hlen : (Nat.toDigits 10 n).length ≤ 20 :=
    (Nat.length_toDigits_le_iff (by decide) (by decide)).2 h
  rw [natOfDigits?, if_pos ⟨all_isDigit_toDigits n, hlen⟩, valueOfDigits_toDigits]

theorem int?_toDigits {n : Nat} (h : n < 10 ^ 20) :
    int? (.number (Nat.toDigits 10 n)) = some (n : Int) := by
  have hread := natOfDigits?_toDigits h
  have hdigits := all_isDigit_toDigits n
  -- a digit in front, so the sign is not looked for
  unfold int?
  split
  · next ds heq =>
    simp only [Json.number.injEq] at heq
    rw [heq, List.all_cons] at hdigits
    exact absurd hdigits (by simp)
  · next ds hsign heq =>
    simp only [Json.number.injEq] at heq
    rw [← heq, hread]
    rfl
  · next hsign hnumber => exact absurd rfl (hnumber _)

theorem int?_minus {n : Nat} (h : n < 10 ^ 20) (hpos : 0 < n) :
    int? (.number ('-' :: Nat.toDigits 10 n)) = some (-(n : Int)) := by
  simp only [int?, natOfDigits?_toDigits h, Option.bind_some]
  rw [if_neg (by omega)]

/-- A whole number that is written is read back. -/
theorem int?_ofInt {n : Int} (hlow : -10 ^ 20 < n) (hhigh : n < 10 ^ 20) :
    int? ((ofInt n).map Spelling.text) = some n := by
  cases n with
  | ofNat n =>
    simp only [ofInt, ofNat, map]
    exact int?_toDigits (by simp only [Int.ofNat_eq_natCast] at hhigh; omega)
  | negSucc n =>
    simp only [ofInt, map]
    rw [int?_minus (by omega) (by omega), Int.negSucc_eq]
    rfl

end TenantAuth.Json
