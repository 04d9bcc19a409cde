-- Many calls that add sub-accounts, each in a transaction of its own, on the same tables. A
-- statement sees what is committed and what its own transaction has inserted; it waits while
-- another transaction holds the lock that it takes, or has inserted a key that it inserts.

import Mathlib.Data.List.Induction
import Mathlib.Data.List.Basic
import TenantAuth.Proofs.Postgres.Joining
import TenantAuth.Proofs.Postgres.Transaction

namespace TenantAuth.Postgres

/-! ## Rows -/

/-- The rows of both tables. -/
structure Tables where
  organizations : List OrganizationRow
  users : List UserRow
  deriving DecidableEq

namespace Tables

/-- The rows violate no constraint of the schema. -/
structure Lawful (db : Tables) : Prop where
  organizationIds : (db.organizations.map (·.id)).Nodup
  quotas : ∀ o ∈ db.organizations, 0 ≤ o.maxSubAccounts
  userIds : (db.users.map (·.id)).Nodup
  emails : (db.users.map (·.email)).Nodup
  homes : ∀ u ∈ db.users, u.organization ∈ db.organizations.map (·.id)
  roles : ∀ u ∈ db.users, u.role ∈ roleNames

instance (db : Tables) : Decidable db.Lawful :=
  decidable_of_iff
    ((db.organizations.map (·.id)).Nodup ∧ (∀ o ∈ db.organizations, 0 ≤ o.maxSubAccounts) ∧
      (db.users.map (·.id)).Nodup ∧ (db.users.map (·.email)).Nodup ∧
      (∀ u ∈ db.users, u.organization ∈ db.organizations.map (·.id)) ∧
      ∀ u ∈ db.users, u.role ∈ roleNames)
    ⟨fun ⟨h₁, h₂, h₃, h₄, h₅, h₆⟩ => ⟨h₁, h₂, h₃, h₄, h₅, h₆⟩,
      fun h => ⟨h.1, h.2, h.3, h.4, h.5, h.6⟩⟩

/-- The tables as statements are carried out on them. -/
def accounts? (db : Tables) : Option Accounts :=
  if h : db.Lawful then
    some ⟨db.organizations, db.users, h.organizationIds, h.quotas, h.userIds, h.emails, h.homes, h.roles⟩
  else none

def ofAccounts (a : Accounts) : Tables := ⟨a.organizations, a.users⟩

theorem lawful_ofAccounts (a : Accounts) : (ofAccounts a).Lawful :=
  ⟨a.organizationIds, a.quotas, a.userIds, a.emails, a.homes, a.roles⟩

theorem accounts?_eq_some_iff {db : Tables} {a : Accounts} :
    db.accounts? = some a ↔ ofAccounts a = db := by
  unfold accounts?
  constructor
  · intro h
    split at h
    · cases h
      rfl
    · cases h
  · rintro rfl
    rw [dif_pos (lawful_ofAccounts a)]
    rfl

/-- The tables with more users. -/
def withUsers (db : Tables) (rows : List UserRow) : Tables := { db with users := rows ++ db.users }

@[simp] theorem withUsers_nil (db : Tables) : db.withUsers [] = db := rfl

@[simp] theorem organizations_withUsers (db : Tables) (rows : List UserRow) :
    (db.withUsers rows).organizations = db.organizations := rfl

/-- The users that a transaction sees, and others do not, if it has left the organizations as
they are. -/
def own? (db : Tables) (view : Accounts) : Option (List UserRow) :=
  if view.organizations = db.organizations then view.users.dropSuffix? db.users else none

theorem own?_eq_some_iff {db : Tables} {view : Accounts} {rows : List UserRow} :
    db.own? view = some rows ↔ ofAccounts view = db.withUsers rows := by
  unfold own?
  by_cases h : view.organizations = db.organizations
  · rw [if_pos h, List.dropSuffix?_eq_some_iff]
    simp [ofAccounts, withUsers, h]
  · rw [if_neg h]
    simp [ofAccounts, withUsers, h]

/-- The rows that a statement locks. -/
def locks (db : Tables) : Statement → List Uuid
  | .lockOrganization o => (db.organizations.map (·.id)).filter fun id => id = o.uuid
  | _ => []

end Tables

/-! ## Transactions -/

/-- What a server holds for a connection. -/
inductive Transaction where
  | idle
  | running (inserted : List UserRow) (locked : List Uuid)
  /-- A statement was refused, so all is lost but the end. -/
  | failed
  /-- The server has ended the transaction and talks no more. -/
  | cut

namespace Transaction

def inserted : Transaction → List UserRow
  | running inserted _ => inserted
  | idle | failed | cut => []

def locked : Transaction → List Uuid
  | running _ locked => locked
  | idle | failed | cut => []

/-- Neither is in the way of the other. -/
structure Apart (t t' : Transaction) : Prop where
  locked : t.locked.Disjoint t'.locked
  ids : (t.inserted.map (·.id)).Disjoint (t'.inserted.map (·.id))
  emails : (t.inserted.map (·.email)).Disjoint (t'.inserted.map (·.email))

instance (t t' : Transaction) : Decidable (t.Apart t') :=
  decidable_of_iff
    ((∀ id ∈ t.locked, id ∉ t'.locked) ∧
      (∀ id ∈ t.inserted.map (·.id), id ∉ t'.inserted.map (·.id)) ∧
      ∀ email ∈ t.inserted.map (·.email), email ∉ t'.inserted.map (·.email))
    ⟨fun ⟨h₁, h₂, h₃⟩ => ⟨fun _ h h' => h₁ _ h h', fun _ h h' => h₂ _ h h', fun _ h h' => h₃ _ h h'⟩,
      fun ⟨h₁, h₂, h₃⟩ => ⟨fun _ h h' => h₁ h h', fun _ h h' => h₂ h h', fun _ h h' => h₃ h h'⟩⟩

/-- What a refusal leaves of a transaction. -/
def Spoilt (t t' : Transaction) : Prop := t' = t ∨ t' = idle ∨ t' = failed ∨ t' = cut

/-- What a statement that is not refused gives back, what becomes of the transaction, and the
rows that are committed. A transaction that failed can be ended, but nothing of it is kept. -/
def carriedOut? (db : Tables) (now : Instant) (t : Transaction) (s : Statement) :
    Option (Outcome × Transaction × List UserRow) :=
  match t, s with
  | idle, .begin => some (⟨[], 0⟩, running [] [], [])
  | running inserted _, .commit => some (⟨[], 0⟩, idle, inserted)
  | running .., .rollback | idle, .rollback | failed, .rollback => some (⟨[], 0⟩, idle, [])
  | idle, .commit | failed, .commit => some (⟨[], 0⟩, idle, [])
  | running inserted locked, s => do
    let view ← (db.withUsers inserted).accounts?
    match view.execute now s with
    | (.ok o, view) =>
      let rows ← db.own? view
      some (o, running rows (db.locks s ++ locked), [])
    | (.error _, _) => none
  | _, _ => none

/-- A statement that is carried out on what the transaction sees. -/
theorem carriedOut?_running {db : Tables} {now : Instant} {inserted : List UserRow}
    {locked : List Uuid} {s : Statement} {o : Outcome} {t' : Transaction} {made : List UserRow}
    (hs : s.bounds = false)
    (h : carriedOut? db now (running inserted locked) s = some (o, t', made)) :
    made = [] ∧ ∃ view view' rows, Tables.ofAccounts view = db.withUsers inserted ∧
      view.carryOut now s = (.ok o, view') ∧ Tables.ofAccounts view' = db.withUsers rows ∧
      t' = running rows (db.locks s ++ locked) := by
  have hunfold : carriedOut? db now (running inserted locked) s = (do
      let view ← (db.withUsers inserted).accounts?
      match view.execute now s with
      | (.ok o, view) =>
        let rows ← db.own? view
        some (o, running rows (db.locks s ++ locked), [])
      | (.error _, _) => none) := by
    cases s <;> first | rfl | cases hs
  rw [hunfold] at h
  obtain ⟨view, hview, h⟩ := Option.bind_eq_some_iff.mp h
  split at h
  · next o' view' hexecuted =>
    obtain ⟨rows, hrows, heq⟩ := Option.bind_eq_some_iff.mp h
    cases heq
    exact ⟨rfl, view, view', rows, Tables.accounts?_eq_some_iff.mp hview,
      Accounts.execute_of_ok hexecuted, Tables.own?_eq_some_iff.mp hrows, rfl⟩
  · cases h

end Transaction

/-! ## Interleavings -/

namespace Joining

/-- A call under way: what is left of it, and what the server holds for its connection. -/
structure Task where
  joining : Joining
  rest : DatabaseProgram (Except StoreError Principal)
  transaction : Transaction

structure Scene where
  tables : Tables
  tasks : List Task

/-- One step: whose it was, and the rows that it committed. -/
structure Event where
  task : Nat
  made : List UserRow

namespace Scene

/-- Nobody else holds what the transaction of a task is to hold. -/
def Admits (σ : Scene) (i : Nat) (t : Transaction) : Prop :=
  ∀ other ∈ σ.tasks.eraseIdx i, t.Apart other.transaction

instance (σ : Scene) (i : Nat) (t : Transaction) : Decidable (σ.Admits i t) :=
  inferInstanceAs (Decidable (∀ other ∈ σ.tasks.eraseIdx i, _))

/-- A task has gone on and committed some rows. -/
def moved (σ : Scene) (i : Nat) (task : Task) (made : List UserRow) : Scene :=
  ⟨σ.tables.withUsers made, σ.tasks.set i task⟩

end Scene

/-- A connection is given or refused; a statement is carried out once nobody is in its way, or
it is refused for whatever reason; and the server ends a transaction when it likes. -/
inductive Move (σ : Scene) : Event → Scene → Prop
  | connected {i : Nat} {j : Joining} {next} {t : Transaction} (reply : Except Failure Unit)
      (htask : σ.tasks[i]? = some ⟨j, .call .acquire next, t⟩) :
      Move σ ⟨i, []⟩ (σ.moved i ⟨j, next reply, t⟩ [])
  | carriedOut {i : Nat} {j : Joining} {s : Statement} {next} {t t' : Transaction} {now : Instant}
      {o : Outcome} {made : List UserRow}
      (htask : σ.tasks[i]? = some ⟨j, .call (.send s) next, t⟩)
      (hcarried : t.carriedOut? σ.tables now s = some (o, t', made)) (hadmits : σ.Admits i t') :
      Move σ ⟨i, made⟩ (σ.moved i ⟨j, next (.ok o), t'⟩ made)
  | refused {i : Nat} {j : Joining} {s : Statement} {next} {t t' : Transaction} (f : Failure)
      (htask : σ.tasks[i]? = some ⟨j, .call (.send s) next, t⟩) (hspoilt : t.Spoilt t') :
      Move σ ⟨i, []⟩ (σ.moved i ⟨j, next (.error f), t'⟩ [])
  | cut {i : Nat} {task : Task} (htask : σ.tasks[i]? = some task) :
      Move σ ⟨i, []⟩ (σ.moved i { task with transaction := .cut } [])

/-- Nothing is done yet for any call. -/
def Scene.start [TransactionManager] (a : Accounts) (calls : List Joining) : Scene :=
  ⟨.ofAccounts a, calls.map fun j => ⟨j, j.program, .idle⟩⟩

/-- The steps of one interleaving, oldest first, and the scene they lead to. -/
inductive Run [TransactionManager] (a : Accounts) (calls : List Joining) : List Event → Scene → Prop
  | nil : Run a calls [] (.start a calls)
  | snoc {events : List Event} {σ σ' : Scene} {e : Event} :
      Run a calls events σ → Move σ e σ' → Run a calls (events ++ [e]) σ'

/-- The rows that were committed, the last one first. -/
def made (events : List Event) : List UserRow := events.reverse.flatMap Event.made

/-- Those of one task. -/
def madeBy (i : Nat) (events : List Event) : List UserRow := made (events.filter (·.task = i))

theorem made_snoc (events : List Event) (e : Event) : made (events ++ [e]) = e.made ++ made events := by
  simp [made]

theorem madeBy_snoc_self (events : List Event) (i : Nat) (rows : List UserRow) :
    madeBy i (events ++ [⟨i, rows⟩]) = rows ++ madeBy i events := by
  rw [madeBy, List.filter_append, List.filter_singleton, decide_eq_true rfl]
  exact made_snoc _ _

theorem madeBy_snoc_of_ne {events : List Event} {e : Event} {i : Nat} (h : e.task ≠ i) :
    madeBy i (events ++ [e]) = madeBy i events := by
  simp [madeBy, h]

/-! ### Schedules -/

/-- The next step of a task that is not refused and not in anybody's way. -/
def Scene.advance? (σ : Scene) (now : Instant) (i : Nat) : Option (Event × Scene) :=
  match σ.tasks[i]? with
  | some ⟨j, .call .acquire next, t⟩ => some (⟨i, []⟩, σ.moved i ⟨j, next (.ok ()), t⟩ [])
  | some ⟨j, .call (.send s) next, t⟩ =>
    match t.carriedOut? σ.tables now s with
    | some (o, t', made) =>
      if σ.Admits i t' then some (⟨i, made⟩, σ.moved i ⟨j, next (.ok o), t'⟩ made) else none
    | none => none
  | _ => none

theorem move_of_advance? {σ σ' : Scene} {now : Instant} {i : Nat} {e : Event}
    (h : σ.advance? now i = some (e, σ')) : Move σ e σ' := by
  unfold Scene.advance? at h
  split at h
  · cases h
    exact .connected (.ok ()) ‹_›
  · split at h
    · split at h
      · cases h
        exact .carriedOut ‹_› ‹_› ‹_›
      · cases h
    · cases h
  · cases h

/-- One turn of a schedule: a task that cannot go on waits. -/
def turn (now : Instant) (played : List Event × Scene) (i : Nat) : List Event × Scene :=
  match played.2.advance? now i with
  | some (e, σ) => (played.1 ++ [e], σ)
  | none => played

/-- The interleaving that a schedule of tasks leads to. -/
def play [TransactionManager] (a : Accounts) (calls : List Joining) (now : Instant)
    (schedule : List Nat) : List Event × Scene :=
  schedule.foldl (turn now) ([], .start a calls)

theorem run_play [TransactionManager] (a : Accounts) (calls : List Joining) (now : Instant)
    (schedule : List Nat) : Run a calls (play a calls now schedule).1 (play a calls now schedule).2 := by
  induction schedule using List.reverseRecOn with
  | nil => exact .nil
  | append_singleton schedule i ih =>
    unfold play at ih ⊢
    rw [List.foldl_append, List.foldl_cons, List.foldl_nil, turn]
    split
    · exact .snoc ih (move_of_advance? ‹_›)
    · exact ih

end Joining

end TenantAuth.Postgres
