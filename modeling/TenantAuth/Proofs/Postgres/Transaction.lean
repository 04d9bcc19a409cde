-- How an operation in a transaction of its own may go. There are seven ways, told apart
-- by how far the server lets it come.

import TenantAuth.Proofs.Postgres.Conversation

namespace TenantAuth.Postgres

/-- The statement begins or ends a transaction. -/
def Statement.bounds : Statement → Bool
  | begin | commit | rollback => true
  | _ => false

/-- No savepoint is refused. -/
def SavepointsHold (t : List Sent) : Prop :=
  ∀ e ∈ t, e.statement = .savepoint → ∃ o, e.reply = .ok o

theorem savepointsHold_append {t₁ t₂ : List Sent} :
    SavepointsHold (t₁ ++ t₂) ↔ SavepointsHold t₁ ∧ SavepointsHold t₂ := by
  unfold SavepointsHold
  constructor
  · intro h
    exact ⟨fun e he => h e (List.mem_append_left _ he), fun e he => h e (List.mem_append_right _ he)⟩
  · rintro ⟨h₁, h₂⟩ e he
    rcases List.mem_append.mp he with he | he
    · exact h₁ e he
    · exact h₂ e he

/-- Where a transaction inside another is refused, the one outside stays open. The client
promises this: a transaction ends when it is committed or rolled back, or let go of. -/
def TransactionManager.LeavesOuter (m : TransactionManager) : Prop := m.left 1 = 1

theorem TransactionManager.LeavesOuter.rollback_not_mem {m : TransactionManager}
    (h : m.LeavesOuter) : .rollback ∉ m.posted 1 := by
  rw [m.rollback_mem_iff 1 Nat.one_ne_zero, h]
  exact Nat.one_ne_zero

section

variable {m : TransactionManager}

/-- No refusal of a savepoint ends the transaction outside. -/
def OuterStays [m : TransactionManager] (t : List Sent) : Prop := m.LeavesOuter ∨ SavepointsHold t

theorem outerStays_append {t₁ t₂ : List Sent} :
    OuterStays (t₁ ++ t₂) ↔ OuterStays t₁ ∧ OuterStays t₂ := by
  unfold OuterStays
  rw [savepointsHold_append, or_and_left]

/-- Nor does one in a part of what was said. -/
theorem OuterStays.body {e : Sent} {t u : List Sent} (h : OuterStays (e :: (t ++ u))) :
    OuterStays t := by
  rw [← List.singleton_append, outerStays_append, outerStays_append] at h
  exact h.2.1

end

namespace Step

variable {m : TransactionManager} {ε α β : Type}

/-! ## Steps inside a transaction -/

/-- From a link inside a transaction the step neither begins nor ends one, as long as
no savepoint is refused or the client leaves it open. -/
def InsideFrom [TransactionManager] (p : Step ε α) (l : Link) : Prop :=
  ∀ t r, Takes (p l) t r → OuterStays t →
    (∀ e ∈ t, e.statement.bounds = false) ∧ ∀ x l', r = some (x, l') → l'.depth = 1

def Inside [TransactionManager] (p : Step ε α) : Prop := ∀ l : Link, l.depth = 1 → p.InsideFrom l

theorem insideFrom_bind {p : Step ε α} {f : α → Step ε β} {l : Link} (hp : p.InsideFrom l)
    (hf : ∀ a, (f a).Inside) : (p >>= f).InsideFrom l := by
  intro t r h hs
  rcases takes_bind.mp h with ⟨t₁, a, l₁, t₂, rfl, h₁, h₂⟩ | ⟨e, l₁, h₁, rfl⟩ | ⟨h₁, rfl⟩
  · obtain ⟨hs₁, hs₂⟩ := outerStays_append.mp hs
    obtain ⟨hin₁, hdepth₁⟩ := hp t₁ _ h₁ hs₁
    obtain ⟨hin₂, hdepth₂⟩ := hf a l₁ (hdepth₁ _ l₁ rfl) t₂ r h₂ hs₂
    refine ⟨fun e he => ?_, hdepth₂⟩
    rcases List.mem_append.mp he with he | he
    · exact hin₁ e he
    · exact hin₂ e he
  · obtain ⟨hin, hdepth⟩ := hp t _ h₁ hs
    refine ⟨hin, fun x l' heq => ?_⟩
    cases heq
    exact hdepth _ l₁ rfl
  · obtain ⟨hin, -⟩ := hp t none h₁ hs
    exact ⟨hin, by simp⟩

theorem inside_bind {p : Step ε α} {f : α → Step ε β} (hp : p.Inside) (hf : ∀ a, (f a).Inside) :
    (p >>= f).Inside := fun l hl => insideFrom_bind (hp l hl) hf

/-- A step that sends nothing. -/
theorem inside_done (x : Except ε α) : Inside (fun l => .done (x, l) : Step ε α) := by
  rintro l hl t r ⟨rfl, rfl⟩ -
  refine ⟨by simp, fun x' l' heq => ?_⟩
  cases heq
  exact hl

theorem inside_pure (a : α) : Inside (pure a : Step ε α) := inside_done (.ok a)

theorem inside_fail (e : ε) : Inside (fail e : Step ε α) := inside_done (.error e)

theorem inside_lift (x : Except ε α) : Inside (lift x : Step ε α) := by
  cases x with
  | ok a => exact inside_pure a
  | error e => exact inside_fail e

theorem inside_broken : Inside (broken : Step ε α) := by
  rintro l hl t r ⟨rfl, rfl⟩ -
  simp

theorem takes_within {operation : String} {p : Step Failure α} {l : Link} {t : List Sent}
    {r : Option (Except StoreError α × Link)} (h : Takes (within operation p l) t r) :
    (∃ x l', Takes (p l) t (some (x, l')) ∧
      r = some (x.mapError (Failure.toStoreError operation), l')) ∨
    (Takes (p l) t none ∧ r = none) := by
  rcases takes_andThen.mp h with ⟨t₁, ⟨x, l'⟩, t₂, rfl, h₁, rfl, rfl⟩ | h
  · exact Or.inl ⟨x, l', by simpa using h₁, rfl⟩
  · exact Or.inr h

/-- A statement is sent only where no refusal is owed. -/
theorem takes_send {operation : String} {s : Statement} {l : Link} {t : List Sent}
    {r : Option (Except StoreError Outcome × Link)} (h : Takes (within operation (send s) l) t r) :
    (∃ f, l.owed = some f ∧ t = [] ∧
      r = some (.error (f.toStoreError operation), { l with owed := none })) ∨
    (∃ f, l.owed = none ∧ t = [⟨s, .error f⟩] ∧ r = some (.error (f.toStoreError operation), l)) ∨
    (∃ o, l.owed = none ∧ t = [⟨s, .ok o⟩] ∧ r = some (.ok o, l)) := by
  obtain ⟨depth, owed⟩ := l
  cases owed with
  | some f =>
    obtain ⟨rfl, rfl⟩ := h
    exact Or.inl ⟨f, rfl, rfl, rfl⟩
  | none =>
    obtain ⟨reply, rest, rfl, rfl, rfl⟩ := h
    cases reply with
    | error f => exact Or.inr (Or.inl ⟨f, rfl, rfl, rfl⟩)
    | ok o => exact Or.inr (Or.inr ⟨o, rfl, rfl, rfl⟩)

theorem inside_send (operation : String) {s : Statement} (hs : s.bounds = false) :
    Inside (within operation (send s)) := by
  intro l hl t r h hsave
  rcases takes_send h with ⟨f, -, rfl, rfl⟩ | ⟨f, -, rfl, rfl⟩ | ⟨o, -, rfl, rfl⟩
  · refine ⟨by simp, fun x l' heq => ?_⟩
    cases heq
    exact hl
  all_goals
    refine ⟨by simpa using hs, fun x l' heq => ?_⟩
    cases heq
    exact hl

/-! ## The ends of a transaction -/

theorem takes_opened {t : List Sent} {r : Option (Except Failure Unit × Link)}
    (h : Takes (opened .idle) t r) :
    (∃ f posted l, t = ⟨.begin, .error f⟩ :: posted ∧ (∀ e ∈ posted, e.statement.givesUp = true) ∧
      r = some (.error f, l)) ∨
    (∃ o, t = [⟨.begin, .ok o⟩] ∧ r = some (.ok (), ⟨1, none⟩)) := by
  obtain ⟨reply, rest, rfl, h⟩ := h
  rcases reply with f | o
  · change Takes ((unopened .idle).andThen _) rest r at h
    rcases takes_andThen.mp h with ⟨posted, l, t₂, rfl, h₁, rfl, rfl⟩ | ⟨h₁, -⟩
    · exact Or.inl ⟨f, posted, l, by simp [heard, Link.idle],
        givesUp_of_posted (takes_postAll h₁).1, rfl⟩
    · cases (takes_postAll h₁).2
  · obtain ⟨rfl, rfl⟩ := h
    exact Or.inr ⟨o, rfl, rfl⟩

theorem takes_abandon {l : Link} {t : List Sent} {r : Option Link} (hl : l.depth = 1)
    (h : Takes (abandon l) t r) : ∃ reply l', t = [⟨.rollback, reply⟩] ∧ r = some l' := by
  obtain ⟨depth, owed⟩ := l
  cases hl
  obtain ⟨reply, rest, rfl, h⟩ := h
  rcases reply with f | o <;> obtain ⟨rfl, rfl⟩ := h <;> exact ⟨_, _, rfl, rfl⟩

theorem takes_orAbandon {p : Step ε α} {l : Link} {t : List Sent}
    {r : Option (Except ε α × Link)} (hp : p.InsideFrom l) (hs : OuterStays t)
    (h : Takes (orAbandon p l) t r) :
    (∃ a l', l'.depth = 1 ∧ Takes (p l) t (some (.ok a, l')) ∧ r = some (.ok a, l')) ∨
    (∃ t₁ e l₁ l' reply, t = t₁ ++ [⟨.rollback, reply⟩] ∧
      Takes (p l) t₁ (some (.error e, l₁)) ∧ r = some (.error e, l')) ∨
    (Takes (p l) t none ∧ r = none) := by
  rcases takes_andThen.mp h with ⟨t₁, ⟨e | a, l₁⟩, t₂, rfl, h₁, h₂⟩ | h
  · have hdepth : l₁.depth = 1 := (hp t₁ _ h₁ (outerStays_append.mp hs).1).2 _ l₁ rfl
    rcases takes_andThen.mp h₂ with ⟨t₃, l', t₄, rfl, h₃, rfl, rfl⟩ | ⟨h₃, -⟩
    · obtain ⟨reply, l'', rfl, -⟩ := takes_abandon hdepth h₃
      exact Or.inr (Or.inl ⟨t₁, e, l₁, l', reply, by simp, h₁, rfl⟩)
    · obtain ⟨_, _, _, hnone⟩ := takes_abandon hdepth h₃
      cases hnone
  · obtain ⟨rfl, rfl⟩ := h₂
    have hdepth : l₁.depth = 1 := (hp t₁ _ h₁ (outerStays_append.mp hs).1).2 _ l₁ rfl
    exact Or.inl ⟨a, l₁, hdepth, by simpa using h₁, rfl⟩
  · exact Or.inr (Or.inr h)

/-- A refusal that is owed comes in place of the commit. -/
theorem takes_kept {owed : Option Failure} {t : List Sent}
    {r : Option (Except Failure Unit × Link)} (h : Takes (kept ⟨1, owed⟩) t r) :
    (∃ f reply l', owed = some f ∧ t = [⟨.rollback, reply⟩] ∧ r = some (.error f, l')) ∨
    (∃ f reply l', owed = none ∧ t = [⟨.commit, .error f⟩, ⟨.rollback, reply⟩] ∧
      r = some (.error f, l')) ∨
    (∃ o, owed = none ∧ t = [⟨.commit, .ok o⟩] ∧ r = some (.ok (), .idle)) := by
  cases owed with
  | some f =>
    obtain ⟨reply, rest, rfl, h⟩ := h
    rcases reply with f' | o <;> obtain ⟨rfl, rfl⟩ := h <;> exact Or.inl ⟨f, _, _, rfl, rfl, rfl⟩
  | none =>
    obtain ⟨reply, rest, rfl, h⟩ := h
    rcases reply with f | o
    · obtain ⟨reply, rest, rfl, h⟩ := h
      rcases reply with f' | o <;> obtain ⟨rfl, rfl⟩ := h <;>
        exact Or.inr (Or.inl ⟨f, _, _, rfl, rfl, rfl⟩)
    · obtain ⟨rfl, rfl⟩ := h
      exact Or.inr (Or.inr ⟨o, rfl, rfl, rfl⟩)

end Step

open Step

/-- How an operation whose body is `p` may go in a transaction of its own. -/
inductive Course {α : Type} (p : Step StoreError α) :
    List Sent → Option (Except StoreError α) → Prop
  | unconnected (e : StoreError) : Course p [] (some (.error e))
  | unopened (f : Failure) (e : StoreError) {posted : List Sent}
      (gaveUp : ∀ e ∈ posted, e.statement.givesUp = true) :
      Course p (⟨.begin, .error f⟩ :: posted) (some (.error e))
  | failed (o : Outcome) (reply : Except Failure Outcome) {t : List Sent} {e : StoreError}
      {l : Link} (body : Takes (p ⟨1, none⟩) t (some (.error e, l))) :
      Course p (⟨.begin, .ok o⟩ :: (t ++ [⟨.rollback, reply⟩])) (some (.error e))
  /-- A refusal inside was not waited for, and it came to light in place of the commit. -/
  | owing (o : Outcome) (reply : Except Failure Outcome) (e : StoreError) {t : List Sent} {a : α}
      {f : Failure} (body : Takes (p ⟨1, none⟩) t (some (.ok a, ⟨1, some f⟩))) :
      Course p (⟨.begin, .ok o⟩ :: (t ++ [⟨.rollback, reply⟩])) (some (.error e))
  | uncommitted (o : Outcome) (f : Failure) (reply : Except Failure Outcome) (e : StoreError)
      {t : List Sent} {a : α} (body : Takes (p ⟨1, none⟩) t (some (.ok a, ⟨1, none⟩))) :
      Course p (⟨.begin, .ok o⟩ :: (t ++ [⟨.commit, .error f⟩, ⟨.rollback, reply⟩]))
        (some (.error e))
  | committed (o o' : Outcome) {t : List Sent} {a : α}
      (body : Takes (p ⟨1, none⟩) t (some (.ok a, ⟨1, none⟩))) :
      Course p (⟨.begin, .ok o⟩ :: (t ++ [⟨.commit, .ok o'⟩])) (some (.ok a))
  | broken (o : Outcome) {t : List Sent} (body : Takes (p ⟨1, none⟩) t none) :
      Course p (⟨.begin, .ok o⟩ :: t) none

section

variable {m : TransactionManager}

theorem course_of_opened {α : Type} {p : Step StoreError α} {o : Outcome} {t : List Sent}
    {r : Option (Except StoreError α × Link)} (hp : p.InsideFrom ⟨1, none⟩)
    (hs : OuterStays t)
    (h : Takes ((orAbandon p >>= fun a => within "commit_transaction" kept >>= fun _ => pure a)
      ⟨1, none⟩) t r) : Course p (⟨.begin, .ok o⟩ :: t) (r.map Prod.fst) := by
  rcases takes_bind.mp h with ⟨t₁, a, l₁, t₂, rfl, h₁, h₂⟩ | ⟨e, l₁, h₁, rfl⟩ | ⟨h₁, rfl⟩
  · rcases takes_orAbandon hp (outerStays_append.mp hs).1 h₁ with
      ⟨a', ⟨depth, owed⟩, hdepth, hbody, heq⟩ | ⟨_, _, _, _, _, _, _, heq⟩ | ⟨_, heq⟩ <;> cases heq
    cases hdepth
    rcases takes_bind.mp h₂ with ⟨t₃, _, l₂, t₄, rfl, h₃, rfl, rfl⟩ | ⟨e, l₂, h₃, rfl⟩ | ⟨h₃, -⟩
    all_goals rcases takes_within h₃ with ⟨x, l', hkept, heq⟩ | ⟨hkept, heq⟩ <;>
      rcases takes_kept hkept with ⟨f, reply, l'', rfl, rfl, heq'⟩ |
        ⟨f, reply, l'', rfl, rfl, heq'⟩ | ⟨o', rfl, rfl, heq'⟩ <;> cases heq' <;> cases heq
    · simpa using Course.committed o o' hbody
    · exact Course.owing o reply _ hbody
    · exact Course.uncommitted o f reply _ hbody
  · rcases takes_orAbandon hp hs h₁ with
      ⟨a', l', hdepth, hbody, heq⟩ | ⟨t₁, e', l₁', l', reply, rfl, hbody, heq⟩ | ⟨_, heq⟩ <;>
      cases heq
    exact Course.failed o reply hbody
  · rcases takes_orAbandon hp hs h₁ with
      ⟨a', l', hdepth, hbody, heq⟩ | ⟨t₁, e', l₁', l', reply, rfl, hbody, heq⟩ | ⟨hbody, -⟩
    · cases heq
    · cases heq
    · exact Course.broken o hbody

/-- An operation in a transaction goes one of the seven ways, if no refusal of a savepoint ends
its transaction. -/
theorem course_of_takes {α : Type} {operation operation' : String} {p : Step StoreError α}
    {t : List Sent} {r : Option (Except StoreError α)} (hp : p.InsideFrom ⟨1, none⟩)
    (hs : OuterStays t) (h : Takes (connected operation (transaction operation' p)) t r) :
    Course p t r := by
  obtain ⟨acquired, rest, rfl, h⟩ := h
  rcases acquired with f | ⟨⟩
  · obtain ⟨rfl, rfl⟩ := h
    exact Course.unconnected _
  have hcourse : ∀ t r, OuterStays t → Takes (transaction operation' p .idle) t r →
      Course p t (r.map Prod.fst) := by
    clear h hs
    intro t r hs h
    rcases takes_bind.mp h with ⟨t₁, _, l₁, t₂, rfl, h₁, h₂⟩ | ⟨e, l₁, h₁, rfl⟩ | ⟨h₁, -⟩
    all_goals rcases takes_within h₁ with ⟨x, l', hopened, heq⟩ | ⟨hopened, heq⟩ <;>
      rcases takes_opened hopened with ⟨f, posted, l', rfl, hposted, heq'⟩ | ⟨o, rfl, heq'⟩ <;>
      cases heq' <;> cases heq
    · exact course_of_opened hp (outerStays_append.mp hs).2 h₂
    · exact Course.unopened f _ hposted
  change Takes ((transaction operation' p .idle).andThen fun ended => pure ended.1) t r at h
  rcases takes_andThen.mp h with ⟨t₁, ⟨x, l⟩, t₂, rfl, h₁, rfl, rfl⟩ | ⟨h₁, rfl⟩
  · simpa [heard] using hcourse t₁ _ (by simpa [heard] using hs) h₁
  · exact hcourse _ none hs h₁

end

end TenantAuth.Postgres
