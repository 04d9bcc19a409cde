-- Which texts are taken for email addresses, said without reading them: a local part and a
-- domain of two labels or more, in not too many octets. Each refusal names its one cause.

import TenantAuth.Field
import TenantAuth.Proofs.Text.Split

namespace TenantAuth.Field

open TenantAuth.Text

/-! ## The form of an address -/

/-- `name@label.label`, with two labels or more. Nothing is empty, the labels hold no dot, and no
part holds a further `@`. -/
def Addressed (cs : List Char) : Prop :=
  ∃ (name : List Char) (labels : List (List Char)),
    cs = name ++ '@' :: ['.'].intercalate labels ∧ name ≠ [] ∧ '@' ∉ name ∧ 2 ≤ labels.length ∧
      ∀ label ∈ labels, label ≠ [] ∧ '@' ∉ label ∧ '.' ∉ label

/-- An address has the form of one, without blanks and control characters. -/
structure IsAddress (email : String) : Prop where
  fits : email.utf8ByteSize ≤ 255
  plain : ∀ c ∈ email.toList, isBlank c = false ∧ isControl c = false
  addressed : Addressed email.toList

variable {cs : List Char}

/-- What is read off a text at its first `@`. -/
theorem addressed_iff : Addressed cs ↔
    ∃ name domain, splitFirst? '@' cs = some (name, domain) ∧ name ≠ [] ∧ '@' ∉ domain ∧
      2 ≤ (splitOn '.' domain).length ∧ ∀ label ∈ splitOn '.' domain, label ≠ [] := by
  constructor
  · rintro ⟨name, labels, rfl, hname, hat, hlength, hlabels⟩
    have hsplit : splitOn '.' (['.'].intercalate labels) = labels :=
      splitOn_intercalate (fun l hl => (hlabels l hl).2.2) (List.ne_nil_of_length_pos (by omega))
    refine ⟨name, ['.'].intercalate labels, splitFirst?_eq_some_iff.2 ⟨rfl, hat⟩, hname, ?_, ?_, ?_⟩
    · rw [mem_intercalate_iff (by decide)]
      rintro ⟨l, hl, hmem⟩
      exact (hlabels l hl).2.1 hmem
    · rwa [hsplit]
    · rw [hsplit]
      exact fun l hl => (hlabels l hl).1
  · rintro ⟨name, domain, hcut, hname, hat, hlength, hlabels⟩
    obtain ⟨rfl, hfirst⟩ := splitFirst?_eq_some_iff.1 hcut
    refine ⟨name, splitOn '.' domain, by rw [intercalate_splitOn], hname, hfirst, hlength, ?_⟩
    intro l hl
    refine ⟨hlabels l hl, fun hmem => hat ?_, notMem_of_mem_splitOn hl⟩
    rw [← intercalate_splitOn '.' domain, mem_intercalate_iff (by decide)]
    exact ⟨l, hl, hmem⟩

theorem isEmail_eq_true_iff :
    isEmail cs = true ↔ (∀ c ∈ cs, isBlank c = false ∧ isControl c = false) ∧ Addressed cs := by
  have hany : (cs.any fun c => isBlank c || isControl c) = false ↔
      ∀ c ∈ cs, isBlank c = false ∧ isControl c = false := by
    simp only [List.any_eq_false, Bool.not_eq_true, Bool.or_eq_false_iff]
  rw [addressed_iff, isEmail, ← hany]
  cases (cs.any fun c => isBlank c || isControl c) with
  | true => simp
  | false =>
    cases splitFirst? '@' cs with
    | none => simp
    | some cut =>
      obtain ⟨name, domain⟩ := cut
      simp [and_assoc]

/-! ## The checks in their order -/

variable {field email : String}

theorem IsAddress.ne_empty (h : IsAddress email) : email ≠ "" := by
  rintro rfl
  obtain ⟨name, labels, heq, -⟩ := h.addressed
  exact List.cons_ne_nil _ _ (List.append_eq_nil_iff.1 heq.symm).2

theorem emailFault?_eq_none_iff : emailFault? email = none ↔ IsAddress email := by
  unfold emailFault? emailLimit
  constructor
  · intro h
    split at h
    · cases h
    split at h
    · cases h
    split at h
    · next hfits hemail =>
      obtain ⟨hplain, haddressed⟩ := isEmail_eq_true_iff.1 hemail
      exact ⟨by omega, hplain, haddressed⟩
    · cases h
  · intro h
    have hfits := h.fits
    rw [if_neg (mt String.isEmpty_iff.1 h.ne_empty), if_neg (by omega),
      if_pos (isEmail_eq_true_iff.2 ⟨h.plain, h.addressed⟩)]

theorem emailFault?_eq_empty_iff : emailFault? email = some .empty ↔ email = "" := by
  unfold emailFault?
  split
  · simp_all
  · split
    · simp_all
    · split <;> simp_all

theorem emailFault?_eq_tooLong_iff :
    emailFault? email = some .tooLong ↔ 255 < email.utf8ByteSize := by
  unfold emailFault? emailLimit
  split
  · simp_all
  · split
    · simp_all
    · split <;> simp_all

theorem emailFault?_eq_notEmail_iff : emailFault? email = some .notEmail ↔
    email ≠ "" ∧ email.utf8ByteSize ≤ 255 ∧ ¬ IsAddress email := by
  rw [← emailFault?_eq_none_iff, ← Nat.not_lt, ← emailFault?_eq_tooLong_iff, ne_eq,
    ← emailFault?_eq_empty_iff]
  cases emailFault? email with
  | none => simp
  | some fault => cases fault <;> simp

/-- The field is refused, for a cause that is told in these words. -/
def Refuses (field email words : String) : Prop :=
  ∃ fault : FieldFault, checkEmail field email = .error ⟨field, fault⟩ ∧ fault.message = words

theorem checkEmail_eq_ok_iff : checkEmail field email = .ok () ↔ emailFault? email = none := by
  unfold checkEmail
  cases emailFault? email <;> simp [check]

theorem message_injective : Function.Injective FieldFault.message := by
  intro a b h
  cases a <;> cases b <;> simp_all [FieldFault.message]

theorem refuses_iff (fault : FieldFault) :
    Refuses field email fault.message ↔ emailFault? email = some fault := by
  unfold Refuses checkEmail
  cases hfault : emailFault? email with
  | none => simp [check]
  | some cause =>
    constructor
    · rintro ⟨other, heq, hwords⟩
      cases message_injective hwords
      simp only [check, Except.error.injEq, FieldError.mk.injEq, true_and] at heq
      rw [heq]
    · rintro heq
      cases heq
      exact ⟨fault, rfl, rfl⟩

/-- An email address is accepted exactly if it has the form of one. It is refused for being
empty, for its length, or for its form, and for one of these only: what is too long is not looked
at any further. -/
theorem emails_are_accepted_by_their_form (field email : String) :
    (checkEmail field email = .ok () ↔ IsAddress email) ∧
    (Refuses field email "required field is empty" ↔ email = "") ∧
    (Refuses field email "field exceeds maximum length" ↔ 255 < email.utf8ByteSize) ∧
    (Refuses field email "invalid email format" ↔
      email ≠ "" ∧ email.utf8ByteSize ≤ 255 ∧ ¬ IsAddress email) :=
  ⟨checkEmail_eq_ok_iff.trans emailFault?_eq_none_iff,
    (refuses_iff .empty).trans emailFault?_eq_empty_iff,
    (refuses_iff .tooLong).trans emailFault?_eq_tooLong_iff,
    (refuses_iff .notEmail).trans emailFault?_eq_notEmail_iff⟩

example : checkEmail "owner_email" "first.last+tag@sub.example.org" = .ok () := by decide +kernel

example : checkEmail "email" "ann@example..org" = .error ⟨"email", .notEmail⟩ := by decide +kernel

end TenantAuth.Field
