-- What writes in several statements writes all or nothing, whatever the server replies, as
-- long as no refusal of a savepoint ends the transaction outside.

import TenantAuth.Postgres.Backend
import TenantAuth.Proofs.Postgres.Transaction

namespace TenantAuth.Postgres

open Step

/-- The statement changes rows or tables. -/
def Statement.writes : Statement → Bool
  | schema | sweep _ | upsertSession _ | consumeSession _ | deleteSession _ | deleteSessionsOf _
  | reserveOrganization _ | insertOrganization .. | setOwner .. | insertUser _ => true
  | _ => false

theorem Statement.writes_of_givesUp {s : Statement} (h : s.givesUp = true) : s.writes = false := by
  rcases givesUp_iff.mp h with rfl | rfl <;> rfl

/-! ## What lasts -/

/-- The writes that a server has carried out: those that last, and those of the open
transaction, a list for each savepoint in it and the innermost first. -/
structure Ledger where
  lasting : List Statement
  levels : List (List Statement)

namespace Ledger

def empty : Ledger := ⟨[], []⟩

/-- Outside of a transaction a write lasts at once. -/
def write (g : Ledger) (s : Statement) : Ledger :=
  match g.levels with
  | [] => { g with lasting := g.lasting ++ [s] }
  | level :: outer => { g with levels := (level ++ [s]) :: outer }

/-- A statement that is carried out. The savepoint stays when it is rolled back to. -/
def take (g : Ledger) : Statement → Ledger
  | .begin => if g.levels.isEmpty then { g with levels := [[]] } else g
  | .savepoint => if g.levels.isEmpty then g else { g with levels := [] :: g.levels }
  | .release =>
    match g.levels with
    | level :: next :: outer => { g with levels := (next ++ level) :: outer }
    | _ => g
  | .rollbackToSavepoint =>
    match g.levels with
    | _ :: next :: outer => { g with levels := [] :: next :: outer }
    | _ => g
  | .commit => ⟨g.lasting ++ g.levels.reverse.flatten, []⟩
  | .rollback => { g with levels := [] }
  | s => if s.writes then g.write s else g

/-- A refused commit still ends the transaction; no other refused statement does anything. -/
def hear (g : Ledger) (e : Sent) : Ledger :=
  match e.reply, e.statement with
  | .ok _, s => g.take s
  | .error _, .commit => { g with levels := [] }
  | .error _, _ => g

/-- What a server has when all of that was said. -/
def after (t : List Sent) : Ledger := t.foldl hear empty

theorem take_inside {g : Ledger} {s : Statement} (hs : s.bounds = false) (hg : g.levels ≠ []) :
    (g.take s).levels ≠ [] ∧ (g.take s).lasting = g.lasting := by
  obtain ⟨lasting, levels⟩ := g
  obtain ⟨level, outer, rfl⟩ := List.exists_cons_of_ne_nil hg
  cases s
  case release | rollbackToSavepoint => cases outer <;> simp [take]
  case begin | commit | rollback => cases hs
  all_goals simp [take, write, Statement.writes]

theorem hear_inside {g : Ledger} {e : Sent} (he : e.statement.bounds = false)
    (hg : g.levels ≠ []) : (g.hear e).levels ≠ [] ∧ (g.hear e).lasting = g.lasting := by
  obtain ⟨s, reply⟩ := e
  cases reply with
  | ok o => exact take_inside he hg
  | error f =>
    cases s
    case commit => cases he
    all_goals exact ⟨hg, rfl⟩

theorem hears_inside {t : List Sent} {g : Ledger} (ht : ∀ e ∈ t, e.statement.bounds = false)
    (hg : g.levels ≠ []) : (t.foldl hear g).levels ≠ [] ∧ (t.foldl hear g).lasting = g.lasting := by
  induction t generalizing g with
  | nil => exact ⟨hg, rfl⟩
  | cons e t ih =>
    obtain ⟨hlevels, hlasting⟩ := hear_inside (ht e List.mem_cons_self) hg
    obtain ⟨hlevels', hlasting'⟩ := ih (fun e' he' => ht e' (List.mem_cons_of_mem _ he')) hlevels
    exact ⟨hlevels', hlasting'.trans hlasting⟩

/-- Within an open transaction nothing lasts yet. -/
theorem after_inside {o : Outcome} {t : List Sent} (ht : ∀ e ∈ t, e.statement.bounds = false) :
    (after (⟨.begin, .ok o⟩ :: t)).levels ≠ [] ∧ (after (⟨.begin, .ok o⟩ :: t)).lasting = [] :=
  hears_inside (g := ⟨[], [[]]⟩) ht (by simp)

theorem after_snoc (t : List Sent) (e : Sent) : after (t ++ [e]) = (after t).hear e := by
  simp [after]

theorem lasting_hear_of_givesUp (g : Ledger) {e : Sent} (he : e.statement.givesUp = true) :
    (g.hear e).lasting = g.lasting := by
  obtain ⟨s, reply⟩ := e
  rcases Statement.givesUp_iff.mp he with rfl | rfl
  · cases reply <;> rfl
  · obtain ⟨lasting, _ | ⟨level, _ | ⟨next, outer⟩⟩⟩ := g <;> cases reply <;> rfl

theorem lasting_hear_rollback (g : Ledger) (reply : Except Failure Outcome) :
    (g.hear ⟨.rollback, reply⟩).lasting = g.lasting := g.lasting_hear_of_givesUp rfl

theorem lasting_hears_of_givesUp {t : List Sent} (ht : ∀ e ∈ t, e.statement.givesUp = true)
    (g : Ledger) : (t.foldl hear g).lasting = g.lasting := by
  induction t generalizing g with
  | nil => rfl
  | cons e t ih =>
    have hrest := ih (fun e' he' => ht e' (List.mem_cons_of_mem _ he')) (g.hear e)
    exact hrest.trans (g.lasting_hear_of_givesUp (ht e List.mem_cons_self))

/-- Nothing is open once all was rolled back. -/
theorem levels_hears_of_rolledBack {t : List Sent} (ht : ∀ e ∈ t, e.statement.givesUp = true)
    {g : Ledger} (h : g.levels = [] ∨ ∃ o, ⟨.rollback, .ok o⟩ ∈ t) :
    (t.foldl hear g).levels = [] := by
  induction t generalizing g with
  | nil => simpa using h
  | cons e t ih =>
    refine ih (fun e' he' => ht e' (List.mem_cons_of_mem _ he')) ?_
    obtain ⟨s, reply⟩ := e
    rcases h with hlevels | ⟨o, hmem⟩
    · left
      rcases Statement.givesUp_iff.mp (ht _ List.mem_cons_self) with heq | heq <;> cases heq <;>
        cases reply <;> simp [hear, take, hlevels]
    · rcases List.mem_cons.mp hmem with heq | hmem
      · cases heq
        exact Or.inl rfl
      · exact Or.inr ⟨o, hmem⟩

end Ledger

/-! ## All or nothing -/

/-- What was said writes all or nothing, and the answer says which of the two. -/
structure Atomic {α : Type} (t : List Sent) (r : Option (Except StoreError α)) : Prop where
  /-- A write is sent only when a transaction has begun and has not ended. -/
  writes : ∀ before e rest, t = before ++ e :: rest → e.statement.writes = true →
    (Ledger.after before).levels ≠ []
  kept : ∀ a, r = some (.ok a) → ∃ before o, t = before ++ [⟨.commit, .ok o⟩]
  refused : ∀ e, r = some (.error e) → ∀ o, ⟨.commit, .ok o⟩ ∉ t
  rolledBack : ∀ e o, r = some (.error e) → ⟨.begin, .ok o⟩ ∈ t →
    ∃ before reply, t = before ++ [⟨.rollback, reply⟩]
  /-- Without success nothing lasts. -/
  nothing : (∀ a, r ≠ some (.ok a)) → (Ledger.after t).lasting = []

theorem writes_inside {o : Outcome} {t u : List Sent} (ht : ∀ e ∈ t, e.statement.bounds = false)
    (hu : ∀ e ∈ u, e.statement.writes = false) {before rest : List Sent} {e : Sent}
    (heq : ⟨.begin, .ok o⟩ :: (t ++ u) = before ++ e :: rest) (he : e.statement.writes = true) :
    (Ledger.after before).levels ≠ [] := by
  cases before with
  | nil =>
    cases heq
    cases he
  | cons e' before =>
    obtain ⟨rfl, htail⟩ := List.cons.inj heq
    rcases List.append_eq_append_iff.mp htail with ⟨v, rfl, hv⟩ | ⟨v, rfl, hv⟩
    · have hrefl := hu e (by simp [hv])
      rw [he] at hrefl
      cases hrefl
    · exact (Ledger.after_inside fun e' he' => ht e' (List.mem_append_left _ he')).1

theorem mem_inside {o : Outcome} {t u : List Sent} {e : Sent}
    (ht : ∀ e ∈ t, e.statement.bounds = false) (he : e.statement = .commit)
    (hmem : e ∈ ⟨.begin, .ok o⟩ :: (t ++ u)) : e ∈ u := by
  rcases List.mem_cons.mp hmem with rfl | hmem
  · cases he
  rcases List.mem_append.mp hmem with hmem | hmem
  · have := ht e hmem
    rw [he] at this
    cases this
  · exact hmem

theorem atomic_rolledBack {α : Type} {o : Outcome} {t : List Sent} {reply : Except Failure Outcome}
    (ht : ∀ e ∈ t, e.statement.bounds = false) (e : StoreError) :
    Atomic (⟨.begin, .ok o⟩ :: (t ++ [⟨.rollback, reply⟩])) (some (.error e) : Option (Except _ α)) where
  writes _ _ _ := writes_inside ht (by simp [Statement.writes])
  kept a h := by cases h
  refused e' _ o' hmem := by simpa using mem_inside ht rfl hmem
  rolledBack _ _ _ _ := ⟨_, reply, by rw [← List.cons_append]⟩
  nothing _ := by
    rw [← List.cons_append, Ledger.after_snoc, Ledger.lasting_hear_rollback]
    exact (Ledger.after_inside ht).2

theorem atomic_unopened {α : Type} {f : Failure} {posted : List Sent}
    (hposted : ∀ e ∈ posted, e.statement.givesUp = true) (e : StoreError) :
    Atomic (⟨.begin, .error f⟩ :: posted) (some (.error e) : Option (Except _ α)) := by
  have hmem : ∀ e ∈ (⟨.begin, .error f⟩ :: posted : List Sent),
      e = ⟨.begin, .error f⟩ ∨ e.statement.givesUp = true := by
    intro e he
    exact (List.mem_cons.mp he).imp_right (hposted e)
  constructor
  · intro before e' rest heq hwrites
    rcases hmem e' (by simp [heq]) with rfl | hgivesUp
    · cases hwrites
    · rw [Statement.writes_of_givesUp hgivesUp] at hwrites
      cases hwrites
  · exact fun a h => by cases h
  · intro e' _ o hcommit
    rcases hmem _ hcommit with hbegin | hgivesUp
    · cases hbegin
    · cases hgivesUp
  · intro e' o _ hbegin
    rcases hmem _ hbegin with hbegin | hgivesUp
    · cases hbegin
    · cases hgivesUp
  · exact fun _ => Ledger.lasting_hears_of_givesUp hposted _

/-- However it goes, all is written or nothing. -/
theorem Course.atomic {m : TransactionManager} {α : Type} {p : Step StoreError α} {t : List Sent}
    {r : Option (Except StoreError α)} (hp : p.InsideFrom ⟨1, none⟩) (hs : OuterStays t)
    (h : Course p t r) : Atomic t r := by
  cases h with
  | unconnected e =>
    exact ⟨by simp, by simp, by simp, by simp, fun _ => rfl⟩
  | unopened f e hposted => exact atomic_unopened hposted e
  | failed o reply body => exact atomic_rolledBack (hp _ _ body hs.body).1 _
  | owing o reply e body => exact atomic_rolledBack (hp _ _ body hs.body).1 _
  | @uncommitted o f reply e t a body =>
    have ht := (hp t _ body hs.body).1
    constructor
    · exact fun _ _ _ => writes_inside ht (by simp [Statement.writes])
    · exact fun a h => by cases h
    · exact fun e' _ o' hmem => by simpa using mem_inside ht rfl hmem
    · exact fun _ _ _ _ => ⟨⟨.begin, .ok o⟩ :: (t ++ [⟨.commit, .error f⟩]), reply, by simp⟩
    · intro _
      have heq : (⟨.begin, .ok o⟩ :: (t ++ [⟨.commit, .error f⟩, ⟨.rollback, reply⟩]) : List Sent)
          = ((⟨.begin, .ok o⟩ :: t) ++ [⟨.commit, .error f⟩]) ++ [⟨.rollback, reply⟩] := by simp
      rw [heq, Ledger.after_snoc, Ledger.lasting_hear_rollback, Ledger.after_snoc]
      exact (Ledger.after_inside ht).2
  | @committed o o' t a body =>
    have ht := (hp t _ body hs.body).1
    constructor
    · exact fun _ _ _ => writes_inside ht (by simp [Statement.writes])
    · exact fun _ _ => ⟨⟨.begin, .ok o⟩ :: t, o', by simp⟩
    · exact fun e h => by cases h
    · exact fun e _ h => by cases h
    · exact fun h => absurd rfl (h a)
  | @broken o t body =>
    have hst : OuterStays t := OuterStays.body (u := []) (by simpa using hs)
    have ht := (hp t none body hst).1
    constructor
    · intro before e rest heq
      exact writes_inside (u := []) ht (by simp) (by simpa using heq)
    · exact fun a h => by cases h
    · exact fun e h => by cases h
    · exact fun e _ h => by cases h
    · exact fun _ => (Ledger.after_inside ht).2

end TenantAuth.Postgres
