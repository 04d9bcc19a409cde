-- What the masking of sensitive words promises: a masked text names none of them, not even
-- across the border of a mask, and masking it again changes nothing.

import Mathlib.Data.List.Infix
import TenantAuth.Log

namespace TenantAuth

/-- A sensitive word stands in the text, in any case. -/
def Sensitive (s : String) : Prop :=
  ∃ word ∈ ["sql", "database", "token", "password", "secret", "key"],
    word.toList <:+: s.toList.map Char.toLower

instance (s : String) : Decidable (Sensitive s) :=
  inferInstanceAs (Decidable (∃ word ∈ _, _))

namespace Redaction

variable {cs w : List Char}

/-- The text in lower case. -/
def lower (cs : List Char) : List Char :=
  cs.map Char.toLower

@[simp] theorem lower_nil : lower [] = [] := rfl

@[simp] theorem lower_cons (c : Char) (cs : List Char) :
    lower (c :: cs) = c.toLower :: lower cs := rfl

theorem lower_mask_append (cs : List Char) :
    lower (mask ++ cs) =
      ['[', 'r', 'e', 'd', 'a', 'c', 't', 'e', 'd'] ++ ']' :: lower cs := by
  unfold lower
  rw [List.map_append]
  rfl

theorem sensitive_iff (s : String) : Sensitive s ↔ ∃ w ∈ words, w <:+: lower s.toList := by
  simp [Sensitive, words, lower]

/-! ## The words -/

theorem ne_nil_of_mem_words (hw : w ∈ words) : w ≠ [] := by
  revert w
  decide

/-- No word holds a bracket, so none reaches over the border of a mask. -/
theorem bracket_notMem_of_mem_words (hw : w ∈ words) : '[' ∉ w ∧ ']' ∉ w := by
  revert w
  decide

theorem not_infix_redacted (hw : w ∈ words) :
    ¬ w <:+: ['[', 'r', 'e', 'd', 'a', 'c', 't', 'e', 'd'] := by
  revert w
  decide

theorem wordAt?_eq_none_iff : wordAt? cs = none ↔ ∀ w ∈ words, ¬ w <+: lower cs := by
  unfold wordAt? lower
  simp only [List.find?_eq_none, beq_iff_eq, List.prefix_iff_eq_take, ← List.map_take]
  exact forall₂_congr fun w _ => not_congr eq_comm

/-! ## Where a word can stand in a masked text -/

/-- What lacks a letter stands on one side of it. -/
theorem infix_append_cons {x : Char} {a b : List Char} (hx : x ∉ w) (h : w <:+: a ++ x :: b) :
    w <:+: a ∨ w <:+: b := by
  rcases List.infix_append_iff.1 h with ha | hb | ⟨l₁, l₂, rfl, h₁, h₂⟩
  · exact .inl ha
  · rcases List.infix_cons_iff.1 hb with hp | hb
    · rcases List.prefix_cons_iff.1 hp with rfl | ⟨t, rfl, -⟩
      · exact .inl List.nil_infix
      · exact absurd List.mem_cons_self hx
    · exact .inr hb
  · rcases List.prefix_cons_iff.1 h₂ with rfl | ⟨t, rfl, -⟩
    · rw [List.append_nil]
      exact .inl h₁.isInfix
    · exact absurd (List.mem_append_right _ List.mem_cons_self) hx

/-- What a masked text begins with, the text itself began with, up to the first mask. -/
theorem prefix_of_prefix_maskWords (hw : '[' ∉ w) (h : w <+: lower (maskWords cs)) :
    w <+: lower cs := by
  fun_induction maskWords cs generalizing w with
  | case1 => exact h
  | case2 c cs v hv ih =>
    rw [lower_mask_append] at h
    rcases List.prefix_cons_iff.1 h with rfl | ⟨t, rfl, -⟩
    · exact List.nil_prefix
    · exact absurd List.mem_cons_self hw
  | case3 c cs hnone ih =>
    rcases List.prefix_cons_iff.1 h with rfl | ⟨t, rfl, ht⟩
    · exact List.nil_prefix
    · exact List.cons_prefix_cons.2 ⟨rfl, ih (fun hm => hw (List.mem_cons_of_mem _ hm)) ht⟩

/-- A masked text holds no word: not in a mask, not over its border, and what is copied begins
with none. -/
theorem not_infix_maskWords (hw : w ∈ words) : ¬ w <:+: lower (maskWords cs) := by
  fun_induction maskWords cs with
  | case1 => exact fun h => ne_nil_of_mem_words hw (List.infix_nil.1 h)
  | case2 c cs v hv ih =>
    rw [lower_mask_append]
    intro h
    rcases infix_append_cons (bracket_notMem_of_mem_words hw).2 h with hm | hr
    · exact not_infix_redacted hw hm
    · exact ih hr
  | case3 c cs hnone ih =>
    have hm : maskWords (c :: cs) = c :: maskWords cs := by rw [maskWords, hnone]
    intro h
    rw [lower_cons] at h
    rcases List.infix_cons_iff.1 h with hp | hr
    · rw [← lower_cons, ← hm] at hp
      exact wordAt?_eq_none_iff.1 hnone w hw
        (prefix_of_prefix_maskWords (bracket_notMem_of_mem_words hw).1 hp)
    · exact ih hr

/-- A text without words is copied as it is. -/
theorem maskWords_of_not_infix (h : ∀ w ∈ words, ¬ w <:+: lower cs) : maskWords cs = cs := by
  fun_induction maskWords cs with
  | case1 => rfl
  | case2 c cs v hv ih =>
    have hnone : wordAt? (c :: cs) = none :=
      wordAt?_eq_none_iff.2 fun w hw hp => h w hw hp.isInfix
    rw [hv] at hnone
    contradiction
  | case3 c cs hnone ih =>
    rw [ih fun w hw hr => h w hw (List.infix_cons_iff.2 (.inr hr))]

end Redaction

open Redaction

theorem redact_eq_self {s : String} (h : ¬ Sensitive s) : redact s = s := by
  have hm : maskWords s.toList = s.toList :=
    maskWords_of_not_infix fun w hw hi => h ((sensitive_iff s).2 ⟨w, hw, hi⟩)
  unfold redact
  rw [hm, String.ofList_toList]

theorem not_sensitive_redact (s : String) : ¬ Sensitive (redact s) := by
  rw [sensitive_iff]
  rintro ⟨w, hw, h⟩
  unfold redact at h
  rw [String.toList_ofList] at h
  exact not_infix_maskWords hw h

/-- A masked text names no sensitive word, masking it again changes nothing, and what is kept as
it is are just the texts that name none. -/
theorem a_masked_text_names_no_sensitive_word (s : String) :
    ¬ Sensitive (redact s) ∧ redact (redact s) = redact s ∧ (redact s = s ↔ ¬ Sensitive s) := by
  refine ⟨not_sensitive_redact s, redact_eq_self (not_sensitive_redact s), ?_, redact_eq_self⟩
  intro h
  rw [← h]
  exact not_sensitive_redact s

example : redact "Secretoken, passwordatabase" = "[REDACTED]oken, [REDACTED]atabase" := by
  decide +kernel

end TenantAuth
