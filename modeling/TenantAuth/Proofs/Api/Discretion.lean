-- What becomes of the texts of failures. Where something inside fails, whoever asked is told that
-- it did and not why; the log is told why, with the sensitive words masked.

import TenantAuth.Proofs.Api.InStep
import TenantAuth.Proofs.Api.Surroundings

namespace TenantAuth.Api

open TenantAuth.Http

variable {T : String → String → Prop}

/-! ## Failures of the inside -/

/-- The failures of which callers are not told the text, by where they come from. -/
inductive InnerFailure where
  | transient
  | internal
  | storeUnavailable
  | storeCorrupt
  | sessionsUnavailable
  | sessionsCorrupt
  | signingKey
  | signing

/-- The failure with a text, as callers get to know it. -/
def InnerFailure.toAuthError (text : String) : InnerFailure → AuthError
  | transient => .transient text
  | internal => .internal text
  | storeUnavailable => (StoreError.unavailable text).toAuthError
  | storeCorrupt => (StoreError.corrupt text).toAuthError
  | sessionsUnavailable => (RefreshError.store (.unavailable text)).toAuthError
  | sessionsCorrupt => (RefreshError.store (.corrupt text)).toAuthError
  | signingKey => (TokenError.key text).toAuthError
  | signing => (TokenError.signing text).toAuthError

/-- The failure is answered alike whatever its text is, and is one event, which has the text masked
and names no sensitive word. -/
def InnerFailure.StaysInside (failure : InnerFailure) : Prop :=
  ∃ response message, ∀ text, (Event.ofFailure text message).Discreet ∧
    Handler.fail (failure.toAuthError text) =
      (Handler.ask (.log (.ofFailure text message))).andThen fun _ => .done response

theorem InnerFailure.staysInside (failure : InnerFailure) : failure.StaysInside := by
  cases failure with
  | transient | storeUnavailable | sessionsUnavailable =>
    exact ⟨_, _, fun text => ⟨Event.discreet_ofFailure text not_sensitive_unavailable, rfl⟩⟩
  | internal | storeCorrupt | sessionsCorrupt | signingKey | signing =>
    exact ⟨_, _, fun text => ⟨Event.discreet_ofFailure text not_sensitive_internal, rfl⟩⟩

/-! ## Runs -/

/-- The event that a call logs. -/
def Call.event? : Call BackendCall → Option Event
  | .log e => some e
  | _ => none

/-- The events that are logged, first one first. -/
def events (asked : List Asked) : List Event := asked.filterMap fun a => a.call.event?

theorem event?_retold {c c' : Call BackendCall} (h : AskedDiscreetly T c c') :
    Option.Rel (Event.RetoldDiscreetly T) c.event? c'.event? := by
  cases h with
  | log h => exact .some h
  | same _ hc =>
    cases c with
    | log e => exact absurd trivial hc
    | _ => exact .none

theorem events_retold {asked asked' : List Asked}
    (h : List.Forall₂ (fun a a' => AskedDiscreetly T a.call a'.call) asked asked') :
    List.Forall₂ (Event.RetoldDiscreetly T) (events asked) (events asked') :=
  List.rel_filterMap (fun _ _ ha => event?_retold ha) h

section

variable {σ τ : Type}

/-- Of two surroundings one tells the same as the other, but for the texts of failures, and
neither looks at what is logged. -/
structure Retells (T : String → String → Prop) (S : σ → τ → Prop)
    (answer : (c : Call BackendCall) → σ → Option (c.Reply BackendCall.Reply) × σ)
    (answer' : (c : Call BackendCall) → τ → Option (c.Reply BackendCall.Reply) × τ) : Prop where
  tells : ∀ c w w', ¬ c.Logs → S w w' →
    Option.Rel (c.Told T) (answer c w).1 (answer' c w').1 ∧ S (answer c w).2 (answer' c w').2
  logs : ∀ e e' w w', S w w' → (answer (.log e) w).1 = (answer' (.log e') w').1 ∧
    S (answer (.log e) w).2 (answer' (.log e') w').2

variable {S : σ → τ → Prop}
  {answer : (c : Call BackendCall) → σ → Option (c.Reply BackendCall.Reply) × σ}
  {answer' : (c : Call BackendCall) → τ → Option (c.Reply BackendCall.Reply) × τ}

theorem Retells.matched (h : Retells T S answer answer') :
    (retelling T).Matched S answer answer' := by
  intro c c' w w' hcalls hw
  cases hcalls with
  | same _ hc =>
    obtain ⟨hreplies, hafter⟩ := h.tells c w w' hc hw
    refine ⟨?_, hafter⟩
    generalize (answer c w).1 = reply, (answer' c w').1 = reply' at hreplies
    cases hreplies with
    | none => exact .none
    | some hreply => exact .some (.same c hreply)
  | @log e e' =>
    obtain ⟨hreplies, hafter⟩ := h.logs e e' w w' hw
    refine ⟨?_, hafter⟩
    rw [hreplies]
    cases (answer' (.log e') w').1 with
    | none => exact .none
    | some reply => exact .some (.log e e')

/-- The texts of inner failures are kept from clients, and from the log but for what the masking
leaves of them. Each such failure is answered alike whatever its text is, and logged with the
text masked. Where the surroundings of a service tell the same but for such texts, every request
is answered with the same, each event is the same but for a masked text, and no event names a
sensitive word. -/
theorem texts_of_failures_stay_inside (s : Service) (r : Request)
    (h : Retells T S answer answer') {w : σ} {w' : τ} (hw : S w w') :
    (∀ failure : InnerFailure, failure.StaysInside) ∧
    ((s.serve r).run answer w).1 = ((s.serve r).run answer' w').1 ∧
    List.Forall₂ (Event.RetoldDiscreetly T) (events ((s.serve r).asked answer w))
      (events ((s.serve r).asked answer' w')) := by
  obtain ⟨hresponse, hasked⟩ := (s.inStep_serve r).run h.matched hw
  exact ⟨InnerFailure.staysInside, Program.eq_of_rel_eq hresponse, events_retold hasked⟩

end

/-! ## Worlds in which calls fail -/

namespace World

/-- The same worlds, but for what was logged in them. -/
def SameButLog (w w' : World) : Prop := w' = { w with log := w'.log }

theorem answer_withLog (supply : Supply) {c : Call BackendCall} (hc : ¬ c.Logs) (w : World)
    (log : List Event) :
    answer supply c { w with log } =
      ((answer supply c w).1, { (answer supply c w).2 with log }) := by
  cases c with
  | within limit b =>
    simp only [answer]
    split <;> rfl
  | log e => exact absurd trivial hc
  | _ => rfl

end World

/-- Nothing in a world depends on what was logged in it. -/
theorem retells_answer (supply : Supply) :
    Retells T World.SameButLog (World.answer supply) (World.answer supply) where
  tells c w w' hc hw := by
    have hanswer := World.answer_withLog supply hc w w'.log
    rw [← hw] at hanswer
    rw [hanswer]
    refine ⟨?_, rfl⟩
    cases (World.answer supply c w).1 with
    | none => exact .none
    | some x => exact .some (c.told_refl x)
  logs e e' w w' hw := by
    rw [hw]
    exact ⟨rfl, rfl⟩

/-- The same fault, and perhaps with another text. -/
inductive Fault.Retold (T : String → String → Prop) : Fault → Fault → Prop
  | fails {e e' : StoreError} (h : e.Retold T noOther e') : Retold T (.fails e) (.fails e')
  | hangs : Retold T .hangs .hangs

/-- The same faults for the same calls, but for their texts. -/
abbrev FaultsRetold (T : String → String → Prop) :
    List (String × Fault) → List (String × Fault) → Prop :=
  List.Forall₂ fun f f' => f.1 = f'.1 ∧ f.2.Retold T f'.2

theorem lookup_retold {faults faults' : List (String × Fault)} (h : FaultsRetold T faults faults')
    (name : String) : Option.Rel (Fault.Retold T) (faults.lookup name) (faults'.lookup name) := by
  induction h with
  | nil => exact .none
  | @cons f f' faults faults' hf _ ih =>
    obtain ⟨name', fault⟩ := f
    obtain ⟨name'', fault'⟩ := f'
    obtain ⟨rfl, hfault⟩ := hf
    rw [List.lookup_cons, List.lookup_cons]
    cases name == name' with
    | true => exact .some hfault
    | false => exact ih

/-- Worlds in which the same calls fail, with other texts. -/
theorem retells_answerFaulty {faults faults' : List (String × Fault)}
    (h : FaultsRetold T faults faults') (supply : Supply) :
    Retells T World.SameButLog (World.answerFaulty faults supply)
      (World.answerFaulty faults' supply) where
  tells c w w' hc hw := by
    have hwhole := (retells_answer (T := T) supply).tells c w w' hc hw
    cases c with
    | backend b =>
      have hfault := lookup_retold h b.name
      simp only [World.answerFaulty]
      generalize faults.lookup b.name = fault, faults'.lookup b.name = fault' at hfault
      cases hfault with
      | none => exact hwhole
      | some hfault =>
        cases hfault with
        | fails he => exact ⟨.some (b.told_failed he), hw⟩
        | hangs => exact ⟨.none, hw⟩
    | within limit b =>
      have hfault := lookup_retold h b.name
      simp only [World.answerFaulty]
      generalize faults.lookup b.name = fault, faults'.lookup b.name = fault' at hfault
      cases hfault with
      | none => exact hwhole
      | some hfault =>
        cases hfault with
        | fails he =>
          exact ⟨.some (.some (b.told_failed (he.mono fun _ _ h => h.elim))), hw⟩
        | hangs => exact ⟨.some .none, hw⟩
    | _ => exact hwhole
  logs e e' w w' hw := (retells_answer (T := T) supply).logs e e' w w' hw

/-! ### A store of sessions that cannot be reached -/

def healthCheck : Request := ⟨.get, ⟨"/health", none⟩, [], []⟩

/-- A world in which the sessions cannot be reached, for a reason. -/
def outOfReach (reason : String) (c : Call BackendCall) (w : World) :
    Option (c.Reply BackendCall.Reply) × World :=
  World.answerFaulty [("ping", .fails (.unavailable reason))] plainSupply c w

/-- One reason may stand for the other. -/
def InsteadOf (reason reason' text text' : String) : Prop := text = reason ∧ text' = reason'

theorem retells_outOfReach (reason reason' : String) :
    Retells (InsteadOf reason reason') World.SameButLog (outOfReach reason)
      (outOfReach reason') := by
  have hfaults : FaultsRetold (InsteadOf reason reason') [("ping", .fails (.unavailable reason))]
      [("ping", .fails (.unavailable reason'))] :=
    .cons ⟨rfl, .fails (.unavailable ⟨rfl, rfl⟩)⟩ .nil
  exact retells_answerFaulty hfaults plainSupply

/-- Two reasons that name what they should not: the answers are the same, and the log learns of
each what is left of it. -/
theorem a_failing_check_is_logged_masked :
    Retells (InsteadOf "no password for database main" "Token of 10.0.0.7 refused")
      World.SameButLog (outOfReach "no password for database main")
      (outOfReach "Token of 10.0.0.7 refused") ∧
    World.SameButLog .empty .empty ∧
    ((plainService.serve healthCheck).run (outOfReach "no password for database main") .empty).1 =
      ((plainService.serve healthCheck).run (outOfReach "Token of 10.0.0.7 refused") .empty).1 ∧
    events ((plainService.serve healthCheck).asked
        (outOfReach "no password for database main") .empty) =
      [⟨.warn, "session store health check failed",
        [("error", "store unavailable: no [REDACTED] for [REDACTED] main")]⟩] ∧
    events ((plainService.serve healthCheck).asked
        (outOfReach "Token of 10.0.0.7 refused") .empty) =
      [⟨.warn, "session store health check failed",
        [("error", "store unavailable: [REDACTED] of 10.0.0.7 refused")]⟩] := by
  have hretells := retells_outOfReach "no password for database main" "Token of 10.0.0.7 refused"
  have hempty : World.SameButLog .empty .empty := rfl
  obtain ⟨-, hresponse, -⟩ :=
    texts_of_failures_stay_inside plainService healthCheck hretells hempty
  exact ⟨hretells, hempty, hresponse, by decide +kernel, by decide +kernel⟩

end TenantAuth.Api
