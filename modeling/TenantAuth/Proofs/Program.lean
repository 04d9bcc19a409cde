-- What holds on every way through a program, whatever the replies are: which
-- calls are never made, and with which values it never ends. A run takes one of
-- those ways, and what it asks on it is read off call by call. Steps that may fail
-- come first: they are taken apart wherever one follows another.

import TenantAuth.Program

namespace TenantAuth

/-! ## Steps that may fail -/

variable {ε α β : Type} {x : Except ε α} {f : α → Except ε β}

theorem bind_eq_ok_iff {b : β} : (x >>= f) = .ok b ↔ ∃ a, x = .ok a ∧ f a = .ok b := by
  cases x with
  | error e => exact ⟨fun h => (nomatch h), fun ⟨_, h, _⟩ => (nomatch h)⟩
  | ok a => exact ⟨fun h => ⟨a, rfl, h⟩, fun ⟨_, ha, h⟩ => by cases ha; exact h⟩

theorem bind_eq_error_iff {e : ε} :
    (x >>= f) = .error e ↔ x = .error e ∨ ∃ a, x = .ok a ∧ f a = .error e := by
  cases x with
  | error e' => simp [bind, Except.bind]
  | ok a => simp [bind, Except.bind]

end TenantAuth

namespace TenantAuth.Program

variable {C : Type} {R : C → Type} {α β σ τ : Type}

/-- None of some calls is made from here on. -/
def Avoids (calls : C → Prop) : Program C R α → Prop
  | done _ | broken => True
  | call c next => ¬ calls c ∧ ∀ r, (next r).Avoids calls

/-- No way through the program ends with one of some values. -/
def Never (values : α → Prop) : Program C R α → Prop
  | done a => ¬ values a
  | broken => True
  | call _ next => ∀ r, (next r).Never values

/-- What is left of a program after a reply, or after none. -/
def resume {c : C} (next : R c → Program C R α) : Option (R c) → Program C R α
  | some r => next r
  | none => broken

theorem avoids_andThen {calls : C → Prop} {p : Program C R α} {f : α → Program C R β}
    (h : p.Avoids calls) (hf : ∀ a, (f a).Avoids calls) : (p.andThen f).Avoids calls := by
  induction p with
  | done a => exact hf a
  | broken => trivial
  | call c next ih => exact ⟨h.1, fun r => ih r (h.2 r)⟩

theorem avoids_resume {calls : C → Prop} {c : C} {next : R c → Program C R α}
    (h : ∀ r, (next r).Avoids calls) (reply : Option (R c)) : (resume next reply).Avoids calls := by
  cases reply with
  | none => trivial
  | some r => exact h r

theorem never_resume {values : α → Prop} {c : C} {next : R c → Program C R α}
    (h : ∀ r, (next r).Never values) (reply : Option (R c)) : (resume next reply).Never values := by
  cases reply with
  | none => trivial
  | some r => exact h r

theorem never_of_forall {values : α → Prop} (h : ∀ a, ¬ values a) (p : Program C R α) :
    p.Never values := by
  induction p with
  | done a => exact h a
  | broken => trivial
  | call c next ih => exact ih

/-! ## What a run asks -/

/-- A call that was made, and the reply to it, if there was one. -/
structure Asked (C : Type) (R : C → Type) where
  call : C
  reply : Option (R call)

/-- The calls that are made in a run, first one first. -/
def asked (answer : (c : C) → σ → Option (R c) × σ) : Program C R α → σ → List (Asked C R)
  | done _, _ => []
  | broken, _ => []
  | call c next, s =>
    match answer c s with
    | (some r, s') => ⟨c, some r⟩ :: (next r).asked answer s'
    | (none, _) => [⟨c, none⟩]

variable {answer : (c : C) → σ → Option (R c) × σ} {c : C} {next : R c → Program C R α} {s s' : σ}

theorem run_call_some {r : R c} (h : answer c s = (some r, s')) :
    (call c next).run answer s = (next r).run answer s' := by
  rw [run, h]

theorem run_call_none (h : answer c s = (none, s')) :
    (call c next).run answer s = (none, s') := by
  rw [run, h]

theorem asked_call_some {r : R c} (h : answer c s = (some r, s')) :
    (call c next).asked answer s = ⟨c, some r⟩ :: (next r).asked answer s' := by
  rw [asked, h]

theorem asked_call_none (h : answer c s = (none, s')) :
    (call c next).asked answer s = [⟨c, none⟩] := by
  rw [asked, h]

/-- One program after the other asks what the first asks and then what the second asks. -/
theorem asked_andThen (p : Program C R α) (f : α → Program C R β) (s : σ) :
    (p.andThen f).asked answer s = p.asked answer s ++
      match p.run answer s with
      | (some a, s') => (f a).asked answer s'
      | (none, _) => [] := by
  induction p generalizing s with
  | done a => rfl
  | broken => rfl
  | call c next ih =>
    rcases hreply : answer c s with ⟨_ | r, s'⟩
    · rw [call_andThen, asked_call_none hreply, asked_call_none hreply, run_call_none hreply]
      rfl
    · rw [call_andThen, asked_call_some hreply, asked_call_some hreply, run_call_some hreply, ih r s']
      rfl

/-- What a program avoids is asked in no run of it. -/
theorem not_asked_of_avoids {calls : C → Prop} {p : Program C R α} (h : p.Avoids calls) (s : σ) :
    ∀ a ∈ p.asked answer s, ¬ calls a.call := by
  induction p generalizing s with
  | done a => simp [asked]
  | broken => simp [asked]
  | call c next ih =>
    obtain ⟨hc, hnext⟩ := h
    rcases hreply : answer c s with ⟨_ | r, s'⟩
    · simpa [asked_call_none hreply] using hc
    · rw [asked_call_some hreply]
      intro a ha
      rcases List.mem_cons.mp ha with rfl | ha
      · exact hc
      · exact ih r (hnext r) s' a ha

/-- What only some calls change stays as it is in a run that avoids them. -/
theorem view_run_of_avoids {calls : C → Prop} {p : Program C R α} {view : σ → τ}
    (hkept : ∀ c s, ¬ calls c → view (answer c s).2 = view s) (h : p.Avoids calls) (s : σ) :
    view (p.run answer s).2 = view s := by
  induction p generalizing s with
  | done a => rfl
  | broken => rfl
  | call c next ih =>
    obtain ⟨hc, hnext⟩ := h
    have hview := hkept c s hc
    rcases hreply : answer c s with ⟨_ | r, s'⟩
    · rw [hreply] at hview
      rw [run_call_none hreply]
      exact hview
    · rw [hreply] at hview
      rw [run_call_some hreply, ih r (hnext r) s']
      exact hview

end TenantAuth.Program
