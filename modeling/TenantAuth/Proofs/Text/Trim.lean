-- What trimming leaves of a text: everything but the blanks at both of its ends. No other part of
-- the text is left when these are gone, so saying what is left says how to trim.

import Mathlib.Data.List.DropRight
import TenantAuth.Text.Blank

namespace TenantAuth.Text

/-- This is what is left of a text without the blanks around it: nothing but blanks is gone, and
no blank stands at an end of what is left. -/
structure Trims (cs rest : List Char) : Prop where
  around : ∃ front back, cs = front ++ rest ++ back ∧ (∀ c ∈ front, isBlank c = true) ∧
    ∀ c ∈ back, isBlank c = true
  first : ∀ c ∈ rest.head?, isBlank c = false
  last : ∀ c ∈ rest.getLast?, isBlank c = false

variable {cs rest : List Char}

/-! ## The front -/

theorem trimFront_eq_self (h : ∀ c ∈ cs.head?, isBlank c = false) : trimFront cs = cs := by
  unfold trimFront
  cases cs with
  | nil => rfl
  | cons c cs => rw [List.dropWhile_cons_of_neg (by simp [h c rfl])]

theorem trimFront_append {front : List Char} (hfront : ∀ c ∈ front, isBlank c = true) :
    trimFront (front ++ rest) = trimFront rest := by
  unfold trimFront
  exact List.dropWhile_append_of_pos hfront

theorem trimFront_eq_nil_iff : trimFront cs = [] ↔ ∀ c ∈ cs, isBlank c = true := by
  unfold trimFront
  exact List.dropWhile_eq_nil_iff

theorem isBlank_head?_trimFront (cs : List Char) : ∀ c ∈ (trimFront cs).head?, isBlank c = false := by
  intro c hc
  have h := List.head?_dropWhile_not isBlank cs
  unfold trimFront at hc
  rw [Option.mem_def.1 hc] at h
  exact h

/-! ## Both ends -/

theorem trimChars_eq (cs : List Char) : trimChars cs = (trimFront cs).rdropWhile isBlank := rfl

theorem trims_trimChars (cs : List Char) : Trims cs (trimChars cs) := by
  rw [trimChars_eq]
  have hprefix : (trimFront cs).rdropWhile isBlank <+: trimFront cs := List.rdropWhile_prefix _ _
  refine ⟨?_, ?_, ?_⟩
  · refine ⟨cs.takeWhile isBlank, (trimFront cs).rtakeWhile isBlank, ?_, ?_, ?_⟩
    · rw [List.append_assoc, List.rdropWhile_append_rtakeWhile, trimFront,
        List.takeWhile_append_dropWhile]
    · exact fun c hc => List.mem_takeWhile_imp hc
    · exact fun c hc => List.mem_rtakeWhile_imp hc
  · -- What is left begins as it did before the blanks at the end were gone.
    intro c hc
    apply isBlank_head?_trimFront cs c
    obtain ⟨back, hback⟩ := hprefix
    rw [← hback]
    cases hrest : (trimFront cs).rdropWhile isBlank with
    | nil => simp [hrest] at hc
    | cons d rest =>
      rw [hrest] at hc
      exact hc
  · intro c hc
    have hne : (trimFront cs).rdropWhile isBlank ≠ [] := by
      rintro hnil
      simp [hnil] at hc
    rw [List.getLast?_eq_some_getLast hne, Option.mem_some_iff] at hc
    rw [← hc]
    simpa using List.rdropWhile_last_not isBlank _ hne

/-- There is one way to trim. -/
theorem trims_iff : Trims cs rest ↔ trimChars cs = rest := by
  constructor
  · rintro ⟨⟨front, back, rfl, hfront, hback⟩, hfirst, hlast⟩
    have hbackward : ∀ c ∈ back.reverse, isBlank c = true := fun c hc =>
      hback c (List.mem_reverse.1 hc)
    unfold trimChars
    rw [List.append_assoc, trimFront_append hfront]
    cases hrest : rest with
    | nil =>
      rw [List.nil_append, trimFront_eq_nil_iff.2 hback]
      rfl
    | cons c cs =>
      have hwhole : ∀ d ∈ (rest ++ back).head?, isBlank d = false := by
        rw [hrest]
        intro d hd
        exact hfirst d (by rw [hrest]; exact hd)
      rw [← hrest, trimFront_eq_self hwhole, List.reverse_append, trimFront_append hbackward,
        trimFront_eq_self, List.reverse_reverse]
      rw [List.head?_reverse]
      exact hlast
  · rintro rfl
    exact trims_trimChars cs

theorem trimChars_eq_nil_iff : trimChars cs = [] ↔ ∀ c ∈ cs, isBlank c = true := by
  constructor
  · intro h
    obtain ⟨front, back, hcs, hfront, hback⟩ := (trims_trimChars cs).around
    rw [h, List.append_nil] at hcs
    intro c hc
    rw [hcs, List.mem_append] at hc
    exact hc.elim (hfront c) (hback c)
  · intro h
    rw [← trims_iff]
    exact ⟨⟨cs, [], by simp, h, by simp⟩, by simp, by simp⟩

theorem Trims.length_le (h : Trims cs rest) : rest.length ≤ cs.length := by
  obtain ⟨front, back, rfl, -, -⟩ := h.around
  simp only [List.length_append]
  omega

end TenantAuth.Text
