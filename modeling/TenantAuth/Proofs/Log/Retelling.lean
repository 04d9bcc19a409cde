-- Failures and events told in other words. What a caller is told of a failure stays the same,
-- and an event is the same but for what the masking leaves of its text.

import TenantAuth.Proofs.Identifier
import TenantAuth.Proofs.Log.Pieces
import TenantAuth.Session.Refresh

namespace TenantAuth

open TenantAuth.Text

variable {T C : String → String → Prop}

/-! ## The same failure in other words -/

/-- The same failure of a store, with one text in place of another. What a conflict says may be
replaced by other texts than what the rest says. -/
inductive StoreError.Retold (T C : String → String → Prop) : StoreError → StoreError → Prop
  | same (e : StoreError) : Retold T C e e
  | unavailable {text text' : String} (h : T text text') :
      Retold T C (.unavailable text) (.unavailable text')
  | conflict {text text' : String} (h : C text text') :
      Retold T C (.conflict text) (.conflict text')
  | corrupt {text text' : String} (h : T text text') : Retold T C (.corrupt text) (.corrupt text')
  | missing {text text' : String} (h : T text text') : Retold T C (.missing text) (.missing text')
  | limitReached {text text' : String} (h : T text text') :
      Retold T C (.limitReached text) (.limitReached text')

theorem StoreError.Retold.mono {C' : String → String → Prop} {e e' : StoreError}
    (h : e.Retold T C e') (hC : ∀ text text', C text text' → C' text text') : e.Retold T C' e' := by
  cases h with
  | same => exact .same _
  | unavailable h => exact .unavailable h
  | conflict h => exact .conflict (hC _ _ h)
  | corrupt h => exact .corrupt h
  | missing h => exact .missing h
  | limitReached h => exact .limitReached h

/-- The same failure, and of one inside perhaps with another text. -/
inductive AuthError.Retold (T : String → String → Prop) : AuthError → AuthError → Prop
  | same (e : AuthError) : Retold T e e
  | transient {text text' : String} (h : T text text') :
      Retold T (.transient text) (.transient text')
  | internal {text text' : String} (h : T text text') : Retold T (.internal text) (.internal text')

/-- No text stands for another. -/
def noOther (_ _ : String) : Prop := False

/-- What callers are told does not depend on the text, unless it is that of a conflict. -/
theorem StoreError.Retold.toAuthError {e e' : StoreError} (h : e.Retold T noOther e') :
    e.toAuthError.Retold T e'.toAuthError := by
  cases h with
  | same => exact .same _
  | unavailable h => exact .transient h
  | conflict h => exact h.elim
  | corrupt h => exact .internal h
  | missing => exact .same _
  | limitReached => exact .same _

/-- The same reason not to take a secret, and of a store perhaps with another text. -/
inductive RefreshError.Retold (T : String → String → Prop) : RefreshError → RefreshError → Prop
  | same (e : RefreshError) : Retold T e e
  | store {e e' : StoreError} (h : e.Retold T noOther e') : Retold T (.store e) (.store e')

theorem RefreshError.Retold.toAuthError {e e' : RefreshError} (h : e.Retold T e') :
    e.toAuthError.Retold T e'.toAuthError := by
  cases h with
  | same => exact .same _
  | store h => exact h.toAuthError

/-! ## Events -/

/-- The same event, or one that is the same but for a masked text. -/
inductive Event.Retold (T : String → String → Prop) : Event → Event → Prop
  | same (e : Event) : Retold T e e
  | masked (level : Level) (message name words : String) {text text' : String}
      (h : T text text') :
      Retold T ⟨level, message, [(name, words ++ redact text)]⟩
        ⟨level, message, [(name, words ++ redact text')]⟩

/-- The event names no sensitive word. -/
structure Event.Discreet (e : Event) : Prop where
  message : ¬ Sensitive e.message
  names : ∀ f ∈ e.fields, ¬ Sensitive f.1
  values : ∀ f ∈ e.fields, ¬ Sensitive f.2

/-- Discreet events that are the same but for a masked text. -/
structure Event.RetoldDiscreetly (T : String → String → Prop) (e e' : Event) : Prop where
  retold : e.Retold T e'
  discreet : e.Discreet
  discreet' : e'.Discreet

theorem Event.discreet_of_field {level : Level} {message name value : String}
    (hmessage : ¬ Sensitive message) (hname : ¬ Sensitive name) (hvalue : ¬ Sensitive value) :
    Event.Discreet ⟨level, message, [(name, value)]⟩ where
  message := hmessage
  names f hf := by
    cases List.mem_singleton.mp hf
    exact hname
  values f hf := by
    cases List.mem_singleton.mp hf
    exact hvalue

theorem Event.discreet_ofFailure (text : String) {message : String} (h : ¬ Sensitive message) :
    (Event.ofFailure text message).Discreet :=
  discreet_of_field h (by decide +kernel) (not_sensitive_redact text)

theorem Event.RetoldDiscreetly.refl {e : Event} (h : e.Discreet) : e.RetoldDiscreetly T e :=
  ⟨.same e, h, h⟩

theorem Event.retold_ofFailure {text text' : String} (h : T text text') {message : String}
    (hmessage : ¬ Sensitive message) :
    (Event.ofFailure text message).RetoldDiscreetly T (.ofFailure text' message) where
  retold := by
    have hmasked := Event.Retold.masked .error message "sanitized_error" "" h
    rwa [String.empty_append, String.empty_append] at hmasked
  discreet := discreet_ofFailure text hmessage
  discreet' := discreet_ofFailure text' hmessage

theorem redact_behind {words : String} (h : ¬ Sensitive words) (text : String) :
    redact (words ++ " " ++ text) = words ++ " " ++ redact text := by
  have hparts : Redaction.Parts ' ' := by decide
  exact (Redaction.redact_append_cons hparts words text).trans (by rw [redact_eq_self h]; rfl)

/-- What a failure of a store says of itself: which kind it is, and then its own text. -/
theorem StoreError.Retold.masked {e e' : StoreError} (h : e.Retold T T e') (level : Level)
    (message name : String) :
    Event.Retold T ⟨level, message, [(name, redact e.message)]⟩
      ⟨level, message, [(name, redact e'.message)]⟩ := by
  have hmasked : ∀ (words : String) {text text' : String}, ¬ Sensitive words → T text text' →
      Event.Retold T ⟨level, message, [(name, redact (words ++ " " ++ text))]⟩
        ⟨level, message, [(name, redact (words ++ " " ++ text'))]⟩ := by
    intro words text text' hwords h
    rw [redact_behind hwords, redact_behind hwords]
    exact .masked level message name (words ++ " ") h
  cases h with
  | same => exact .same _
  | unavailable h => exact hmasked "store unavailable:" (by decide +kernel) h
  | conflict h => exact hmasked "store conflict:" (by decide +kernel) h
  | corrupt h => exact hmasked "corrupt row:" (by decide +kernel) h
  | missing h => exact hmasked "not found:" (by decide +kernel) h
  | limitReached h => exact hmasked "limit reached:" (by decide +kernel) h

namespace Uuid

/-- No sensitive word can be written with the letters of ids. -/
theorem not_sensitive_toText (u : Uuid) : ¬ Sensitive u.toText := by
  have hwords : ∀ w ∈ Redaction.words, ¬ w ⊆ letters := by decide
  have hlower : letters.map Char.toLower = letters := by decide
  rw [Redaction.sensitive_iff, toText, String.toList_ofList]
  rintro ⟨w, hw, h⟩
  apply hwords w hw
  calc w ⊆ u.chars.map Char.toLower := h.subset
    _ ⊆ letters.map Char.toLower := List.map_subset _ u.chars_subset
    _ = letters := hlower

end Uuid

end TenantAuth
