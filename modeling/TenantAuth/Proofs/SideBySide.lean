-- Two programs beside each other, call by call. What they are told may differ, and what
-- they end with may differ, as far as two relations let it; what is the same in both of
-- two runs is said by these.

import Mathlib.Data.List.Forall2
import Mathlib.Data.Option.Defs
import TenantAuth.Proofs.Program

namespace TenantAuth

/-- Both are values or both are failures, and they are related. -/
inductive Matches {ε ε' α α' : Type} (E : ε → ε' → Prop) (V : α → α' → Prop) :
    Except ε α → Except ε' α' → Prop
  | ok {a : α} {a' : α'} (h : V a a') : Matches E V (.ok a) (.ok a')
  | error {e : ε} {e' : ε'} (h : E e e') : Matches E V (.error e) (.error e')

namespace Matches

variable {ε ε' α : Type} {E : ε → ε → Prop}

theorem refl (hE : ∀ e, E e e) : (x : Except ε α) → Matches E Eq x x
  | .ok _ => ok rfl
  | .error e => error (hE e)

theorem mapError {E' : ε' → ε' → Prop} {f : ε → ε'} (hf : ∀ e e', E e e' → E' (f e) (f e'))
    {x x' : Except ε α} (h : Matches E Eq x x') : Matches E' Eq (x.mapError f) (x'.mapError f) := by
  cases h with
  | ok h => exact ok h
  | error h => exact error (hf _ _ h)

end Matches

namespace Program

/-- Which calls may be made beside each other, and which replies they may get there. -/
structure Pairing (C : Type) (R : C → Type) where
  calls : C → C → Prop
  replies : (c c' : C) → R c → R c' → Prop

variable {C : Type} {R : C → Type} {α α' β β' σ τ : Type}

/-- The programs make calls that may be made beside each other, as long as the replies may be
got there, and then end with related values. Neither breaks down. -/
inductive Beside (P : Pairing C R) (V : α → α' → Prop) : Program C R α → Program C R α' → Prop
  | done {a : α} {a' : α'} (h : V a a') : Beside P V (.done a) (.done a')
  | call {c c' : C} {next : R c → Program C R α} {next' : R c' → Program C R α'}
      (hcalls : P.calls c c')
      (hnext : ∀ r r', P.replies c c' r r' → Beside P V (next r) (next' r')) :
      Beside P V (.call c next) (.call c' next')

/-- Two answerers give such replies to such calls, from states that are related to states that
are related. -/
def Pairing.Kept (P : Pairing C R) (S : σ → τ → Prop) (answer : (c : C) → σ → Option (R c) × σ)
    (answer' : (c : C) → τ → Option (R c) × τ) : Prop :=
  ∀ c c' s s', P.calls c c' → S s s' → ∃ r r' t t',
    answer c s = (some r, t) ∧ answer' c' s' = (some r', t') ∧ P.replies c c' r r' ∧ S t t'

namespace Beside

variable {P : Pairing C R} {V : α → α' → Prop} {W : β → β' → Prop}
  {p : Program C R α} {p' : Program C R α'}

theorem andThen {f : α → Program C R β} {f' : α' → Program C R β'} (h : Beside P V p p')
    (hf : ∀ a a', V a a' → Beside P W (f a) (f' a')) :
    Beside P W (p.andThen f) (p'.andThen f') := by
  induction h with
  | done h => exact hf _ _ h
  | call hcalls hnext ih => exact call hcalls fun r r' hr => ih r r' hr

theorem perform {c c' : C} (h : P.calls c c') :
    Beside P (P.replies c c') (Program.perform c) (Program.perform c') :=
  call h fun _ _ hr => done hr

/-- Two runs give related values. -/
theorem run {S : σ → τ → Prop} {answer : (c : C) → σ → Option (R c) × σ}
    {answer' : (c : C) → τ → Option (R c) × τ} (h : Beside P V p p')
    (hkept : P.Kept S answer answer') {s : σ} {s' : τ} (hs : S s s') : ∃ a a' t t',
      p.run answer s = (some a, t) ∧ p'.run answer' s' = (some a', t') ∧ V a a' ∧ S t t' := by
  induction h generalizing s s' with
  | done h => exact ⟨_, _, s, s', rfl, rfl, h, hs⟩
  | call hcalls hnext ih =>
    obtain ⟨r, r', t, t', hr, hr', hreplies, ht⟩ := hkept _ _ s s' hcalls hs
    rw [Program.run, Program.run, hr, hr']
    exact ih r r' hreplies ht

end Beside

/-! ## Programs that may break down -/

theorem eq_of_rel_eq {x x' : Option α} (h : Option.Rel Eq x x') : x = x' := by
  cases h with
  | none => rfl
  | some h => rw [h]

/-- As programs beside each other, but where one breaks down the other does so too. -/
inductive InStep (P : Pairing C R) (V : α → α' → Prop) : Program C R α → Program C R α' → Prop
  | done {a : α} {a' : α'} (h : V a a') : InStep P V (.done a) (.done a')
  | broken : InStep P V .broken .broken
  | call {c c' : C} {next : R c → Program C R α} {next' : R c' → Program C R α'}
      (hcalls : P.calls c c')
      (hnext : ∀ r r', P.replies c c' r r' → InStep P V (next r) (next' r')) :
      InStep P V (.call c next) (.call c' next')

/-- Two answerers give such replies to such calls, or none to either of them. -/
def Pairing.Matched (P : Pairing C R) (S : σ → τ → Prop)
    (answer : (c : C) → σ → Option (R c) × σ) (answer' : (c : C) → τ → Option (R c) × τ) : Prop :=
  ∀ c c' s s', P.calls c c' → S s s' →
    Option.Rel (P.replies c c') (answer c s).1 (answer' c' s').1 ∧
      S (answer c s).2 (answer' c' s').2

/-- The replies to the same call on both sides. -/
inductive RepliesTo (told : (c : C) → R c → R c → Prop) : (c c' : C) → R c → R c' → Prop
  | same (c : C) {r r' : R c} (h : told c r r') : RepliesTo told c c r r'

namespace InStep

variable {D : Type} {R' : D → Type} {P : Pairing C R} {V : α → α' → Prop} {W : β → β' → Prop}
  {p : Program C R α} {p' : Program C R α'}

theorem andThen {f : α → Program C R β} {f' : α' → Program C R β'} (h : InStep P V p p')
    (hf : ∀ a a', V a a' → InStep P W (f a) (f' a')) :
    InStep P W (p.andThen f) (p'.andThen f') := by
  induction h with
  | done h => exact hf _ _ h
  | broken => exact broken
  | call hcalls hnext ih => exact call hcalls fun r r' hr => ih r r' hr

/-- Calls that are made beside each other may be answered by programs that keep in step. -/
theorem interpret {Q : Pairing D R'} {answer answer' : (c : C) → Program D R' (R c)}
    (h : InStep P V p p')
    (hanswer : ∀ c c', P.calls c c' → InStep Q (P.replies c c') (answer c) (answer' c')) :
    InStep Q V (p.interpret answer) (p'.interpret answer') := by
  induction h with
  | done h => exact done h
  | broken => exact broken
  | call hcalls hnext ih => exact (hanswer _ _ hcalls).andThen ih

/-- Two runs give related values, or neither gives one, and what they ask is asked call by call
beside each other. -/
theorem run {S : σ → τ → Prop} {answer : (c : C) → σ → Option (R c) × σ}
    {answer' : (c : C) → τ → Option (R c) × τ} (h : InStep P V p p')
    (hmatched : P.Matched S answer answer') {s : σ} {s' : τ} (hs : S s s') :
    Option.Rel V (p.run answer s).1 (p'.run answer' s').1 ∧
      List.Forall₂ (fun a a' => P.calls a.call a'.call) (p.asked answer s)
        (p'.asked answer' s') := by
  induction h generalizing s s' with
  | done h => exact ⟨.some h, .nil⟩
  | broken => exact ⟨.none, .nil⟩
  | @call c c' next next' hcalls hnext ih =>
    obtain ⟨hreplies, ht⟩ := hmatched c c' s s' hcalls hs
    rcases hr : answer c s with ⟨_ | r, t⟩ <;> rcases hr' : answer' c' s' with ⟨_ | r', t'⟩ <;>
      rw [hr, hr'] at hreplies ht
    · rw [run_call_none hr, run_call_none hr', asked_call_none hr, asked_call_none hr']
      exact ⟨.none, .cons hcalls .nil⟩
    · cases hreplies
    · cases hreplies
    · cases hreplies with
      | some hreplies =>
        rw [run_call_some hr, run_call_some hr', asked_call_some hr, asked_call_some hr']
        obtain ⟨hvalue, hasked⟩ := ih r r' hreplies ht
        exact ⟨hvalue, .cons hcalls hasked⟩

end InStep

end Program

end TenantAuth
