-- Which rows of characters are decimal numerals, and which number each of them writes. A numeral
-- is read exactly if its number is below the limit, however many zeros stand in front of it.

import TenantAuth.Text.Digit

namespace TenantAuth.Text

/-- Digits, at least one of them, write a number; a plus sign may stand in front. -/
def Writes (cs : List Char) (n : Nat) : Prop :=
  ∃ ds, (cs = ds ∨ cs = '+' :: ds) ∧ ds ≠ [] ∧ (∀ c ∈ ds, c.isDigit = true) ∧
    Nat.ofDigitChars 10 ds 0 = n

variable {limit acc n m : Nat} {cs : List Char}

/-! ## Digits -/

theorem digitValue?_eq (c : Char) :
    digitValue? c = if c.isDigit = true then some (c.toNat - 48) else none := by
  have hiff : c.isDigit = true ↔ 48 ≤ c.toNat ∧ c.toNat ≤ 57 := by
    unfold Char.isDigit
    rw [Bool.and_eq_true, decide_eq_true_eq, decide_eq_true_eq]
    exact Iff.rfl
  unfold digitValue?
  simp only [hiff]

theorem le_ofDigitChars (cs : List Char) (acc : Nat) : acc ≤ Nat.ofDigitChars 10 cs acc := by
  induction cs generalizing acc with
  | nil => exact Nat.le_refl acc
  | cons c cs ih =>
    rw [Nat.ofDigitChars_cons]
    have h := ih (10 * acc + (c.toNat - '0'.toNat))
    omega

/-- The number only grows with the digits, so the limit is passed on the way exactly if it is
passed in the end. -/
theorem readDigits_eq_ok_iff (hacc : acc < limit) : readDigits limit acc cs = .ok n ↔
    (∀ c ∈ cs, c.isDigit = true) ∧ Nat.ofDigitChars 10 cs acc = n ∧ n < limit := by
  induction cs generalizing acc with
  | nil =>
    simp only [readDigits, Nat.ofDigitChars_nil, Except.ok.injEq, List.not_mem_nil,
      false_implies, implies_true, true_and]
    constructor
    · rintro rfl
      exact ⟨rfl, hacc⟩
    · exact fun h => h.1
  | cons c cs ih =>
    rw [readDigits, digitValue?_eq, List.forall_mem_cons, Nat.ofDigitChars_cons]
    by_cases hc : c.isDigit = true
    · rw [if_pos hc]
      have hvalue : c.toNat - '0'.toNat = c.toNat - 48 := rfl
      rw [hvalue]
      dsimp only
      split
      · next hlt => simp only [ih hlt, hc, true_and]
      · next hlt =>
        have hle := le_ofDigitChars cs (10 * acc + (c.toNat - 48))
        constructor
        · intro h
          cases h
        · rintro ⟨-, rfl, hn⟩
          omega
    · simp [hc]

/-! ## Numerals -/

theorem not_writes_nil : ¬ Writes [] n := by
  rintro ⟨ds, rfl | h, hne, -⟩
  · exact hne rfl
  · cases h

theorem writes_plus_iff : Writes ('+' :: cs) n ↔
    cs ≠ [] ∧ (∀ c ∈ cs, c.isDigit = true) ∧ Nat.ofDigitChars 10 cs 0 = n := by
  constructor
  · rintro ⟨ds, rfl | h, hne, hdigits, hvalue⟩
    · -- A plus sign is no digit.
      exact absurd (hdigits '+' List.mem_cons_self) (by decide)
    · cases h
      exact ⟨hne, hdigits, hvalue⟩
  · rintro ⟨hne, hdigits, hvalue⟩
    exact ⟨cs, Or.inr rfl, hne, hdigits, hvalue⟩

theorem writes_iff (hne : cs ≠ []) (hplus : ∀ ds, cs ≠ '+' :: ds) : Writes cs n ↔
    (∀ c ∈ cs, c.isDigit = true) ∧ Nat.ofDigitChars 10 cs 0 = n := by
  constructor
  · rintro ⟨ds, rfl | h, -, hdigits, hvalue⟩
    · exact ⟨hdigits, hvalue⟩
    · exact absurd h (hplus ds)
  · rintro ⟨hdigits, hvalue⟩
    exact ⟨cs, Or.inl rfl, hne, hdigits, hvalue⟩

theorem readNumeral_eq_ok_iff (hlimit : 0 < limit) :
    readNumeral limit cs = .ok n ↔ Writes cs n ∧ n < limit := by
  unfold readNumeral
  split
  · simp [not_writes_nil]
  · next cs =>
    rw [writes_plus_iff]
    cases cs with
    | nil => simp
    | cons c cs => simp [readDigits_eq_ok_iff hlimit, and_assoc]
  · next hne hplus =>
    rw [readDigits_eq_ok_iff hlimit, writes_iff (fun h => hne h) (fun ds h => hplus ds h), and_assoc]

/-- A numeral writes one number. -/
theorem Writes.unique (h : Writes cs n) (h' : Writes cs m) : n = m := by
  have hread : readNumeral (n + m + 1) cs = .ok n :=
    (readNumeral_eq_ok_iff (by omega)).2 ⟨h, by omega⟩
  have hread' : readNumeral (n + m + 1) cs = .ok m :=
    (readNumeral_eq_ok_iff (by omega)).2 ⟨h', by omega⟩
  rw [hread] at hread'
  exact Except.ok.inj hread'

/-- What is refused writes no number below the limit. -/
theorem not_writes_of_readNumeral {reason : NumeralError} (hlimit : 0 < limit)
    (h : readNumeral limit cs = .error reason) : ¬ ∃ n < limit, Writes cs n := by
  rintro ⟨n, hn, hwrites⟩
  rw [(readNumeral_eq_ok_iff hlimit).2 ⟨hwrites, hn⟩] at h
  cases h

end TenantAuth.Text
