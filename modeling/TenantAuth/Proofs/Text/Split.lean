-- Cutting a text at a separator and putting it together again. What is cut is the library's
-- cutting of lists, so its laws hold here; what stands before the first separator lacks it.

import Mathlib.Data.List.Basic
import TenantAuth.Text.Split

namespace TenantAuth.Text

variable {separator : Char} {cs : List Char}

/-! ## All pieces -/

theorem splitOn_eq (separator : Char) (cs : List Char) :
    splitOn separator cs = cs.splitOn separator := by
  induction cs with
  | nil => rfl
  | cons c cs ih =>
    rw [splitOn, List.splitOn_cons_eq_if_modifyHead, ih]
    by_cases hc : c = separator
    · simp [hc]
    · rw [if_neg hc, if_neg (by simpa using hc)]
      cases hpieces : cs.splitOn separator with
      | nil => exact absurd hpieces (List.splitOn_ne_nil _ _)
      | cons piece pieces => rfl

theorem intercalate_splitOn (separator : Char) (cs : List Char) :
    [separator].intercalate (splitOn separator cs) = cs := by
  rw [splitOn_eq, List.intercalate_splitOn]

theorem splitOn_intercalate {pieces : List (List Char)} (hpieces : ∀ p ∈ pieces, separator ∉ p)
    (hne : pieces ≠ []) : splitOn separator ([separator].intercalate pieces) = pieces := by
  rw [splitOn_eq, List.splitOn_intercalate _ hpieces hne]

theorem notMem_of_mem_splitOn {piece : List Char} (h : piece ∈ splitOn separator cs) :
    separator ∉ piece := by
  induction cs generalizing piece with
  | nil => simp_all [splitOn]
  | cons c cs ih =>
    rw [splitOn] at h
    split at h
    · rcases List.mem_cons.1 h with rfl | h
      · exact List.not_mem_nil
      · exact ih h
    · next hc =>
      split at h
      · rw [List.mem_singleton.1 h, List.mem_singleton]
        exact Ne.symm hc
      · next front pieces hpieces =>
        rw [hpieces] at ih
        rcases List.mem_cons.1 h with rfl | h
        · rw [List.mem_cons, not_or]
          exact ⟨Ne.symm hc, ih List.mem_cons_self⟩
        · exact ih (List.mem_cons_of_mem _ h)

/-- Between the pieces stands nothing but separators. -/
theorem mem_intercalate_iff {pieces : List (List Char)} {c : Char} (hc : c ≠ separator) :
    c ∈ [separator].intercalate pieces ↔ ∃ p ∈ pieces, c ∈ p := by
  induction pieces with
  | nil => simp
  | cons piece pieces ih =>
    cases pieces with
    | nil => simp
    | cons next pieces =>
      rw [List.intercalate_cons_cons, List.mem_append, List.mem_append, ih, List.mem_singleton]
      simp [hc]

/-! ## The first separator -/

theorem splitFirst?_eq_some_iff {front rest : List Char} :
    splitFirst? separator cs = some (front, rest) ↔
      cs = front ++ separator :: rest ∧ separator ∉ front := by
  induction cs generalizing front with
  | nil => simp [splitFirst?]
  | cons c cs ih =>
    rw [splitFirst?]
    by_cases hc : c = separator
    · subst hc
      cases front with
      | nil => simp [eq_comm]
      | cons d front => simp +contextual [eq_comm]
    · rw [if_neg hc, Option.map_eq_some_iff]
      constructor
      · rintro ⟨⟨tail, behind⟩, htail, heq⟩
        obtain ⟨rfl, rfl⟩ := Prod.mk.inj heq
        obtain ⟨rfl, hnot⟩ := ih.1 htail
        exact ⟨rfl, by simp [hnot, Ne.symm hc]⟩
      · rintro ⟨heq, hnot⟩
        cases front with
        | nil => exact absurd (List.cons.inj heq).1 hc
        | cons d front =>
          obtain ⟨rfl, rfl⟩ := List.cons.inj heq
          exact ⟨(front, rest), ih.2 ⟨rfl, fun h => hnot (List.mem_cons_of_mem _ h)⟩, rfl⟩

end TenantAuth.Text
