-- How a sub-account is added, reply by reply. Between two replies the call is at one of eight
-- places; which statement it sends there, and where a reply takes it, is read off the program.

import TenantAuth.Proofs.Postgres.Enrolling
import TenantAuth.Proofs.Postgres.Midway

namespace TenantAuth.Postgres

open Step

/-- The one value that an outcome gives back. -/
def Outcome.oneValue {α : Type} (operation : String) (read : Cell → Option α) (o : Outcome) :
    Except StoreError α :=
  match o.rows.head? with
  | none => .error (Failure.noRow.toStoreError operation)
  | some row => (row.single read).mapError (Failure.toStoreError operation)

theorem midway_oneValue {α β : Type} (operation : String) (s : Statement) (read : Cell → Option α)
    (next : α → Step StoreError β) :
    midway (Users.oneValue operation s read >>= next) = .call (.send s) fun
      | .ok o => match o.oneValue operation read with
        | .ok a => midway (next a)
        | .error e => rollingBack e
      | .error f => rollingBack (f.toStoreError operation) := by
  rw [Users.oneValue, bind_assoc, midway_send]
  refine call_congr fun reply => ?_
  cases reply with
  | error f => rfl
  | ok o =>
    simp only [Outcome.oneValue]
    cases o.rows.head? with
    | none => exact midway_fail _
    | some row => exact midway_lift _ next

/-! ## The places -/

/-- A call that adds a sub-account. -/
structure Joining where
  organization : OrganizationId
  email : String
  name : String
  new : NewUser
  deriving DecidableEq

namespace Joining

/-- Whoever comes in if all goes well. -/
def member (j : Joining) : Principal := j.new.toSubAccount j.organization j.email j.name

def program [TransactionManager] (j : Joining) : DatabaseProgram (Except StoreError Principal) :=
  Users.answer (.addUser j.organization j.email j.name j.new)

/-- What the call waits for the server to do. -/
inductive Place where
  | beginning
  | checking
  | locking
  | counting (limit : Int32)
  | inserting
  | committing
  /-- The statement gives up the transaction, and so do those that come after it. -/
  | givingUp (e : StoreError) (s : Statement) (more : List Statement)
      (h : ∀ s' ∈ s :: more, s'.givesUp = true)

/-- How far the call has come. -/
inductive Progress where
  | connecting
  | waiting (place : Place)
  | ended (answer : Except StoreError Principal)

open Place Progress

/-- The transaction is rolled back. -/
abbrev Place.undoing (e : StoreError) : Place := givingUp e .rollback [] (by simp [Statement.givesUp])

/-- The statements give up the transaction, and the call ends with a failure. -/
def Progress.leaving (e : StoreError) :
    (statements : List Statement) → (∀ s ∈ statements, s.givesUp = true) → Progress
  | [], _ => ended (.error e)
  | s :: more, h => waiting (givingUp e s more h)

/-- The statement that is sent there. -/
def statement (j : Joining) : Place → Statement
  | beginning => .begin
  | checking => .emailTaken j.email
  | locking => .lockOrganization j.organization
  | counting _ => .countSubAccounts j.organization
  | inserting => .insertUser j.member
  | committing => .commit
  | givingUp _ s _ _ => s

def afterChecking (j : Joining) (o : Outcome) : Place :=
  match o.oneValue "check_email" Cell.bool? with
  | .ok taken => if taken then undoing (.emailTaken j.email) else locking
  | .error e => undoing e

def afterLocking (j : Joining) (o : Outcome) : Place :=
  match o.rows.head? with
  | none => undoing (.noOrganization j.organization)
  | some row =>
    match (row.single Cell.int4?).mapError (Failure.toStoreError "lock_organization") with
    | .ok limit => counting limit
    | .error e => undoing e

def afterCounting (j : Joining) (limit : Int32) (o : Outcome) : Place :=
  match o.oneValue "count_sub_accounts" Cell.int8? with
  | .ok count =>
    if limit.toInt ≤ count.toInt then undoing (.fullOrganization j.organization count.toInt)
    else inserting
  | .error e => undoing e

/-- Where a reply takes it. -/
def after [m : TransactionManager] (j : Joining) : Place → Except Failure Outcome → Progress
  | beginning, .ok _ => waiting checking
  | beginning, .error f => leaving (f.toStoreError "begin_transaction") (m.posted 0) (m.givesUp_of_mem 0)
  | checking, .ok o => waiting (j.afterChecking o)
  | checking, .error f => waiting (undoing (f.toStoreError "check_email"))
  | locking, .ok o => waiting (j.afterLocking o)
  | locking, .error f => waiting (undoing (f.toStoreError "lock_organization"))
  | counting limit, .ok o => waiting (j.afterCounting limit o)
  | counting _, .error f => waiting (undoing (f.toStoreError "count_sub_accounts"))
  | inserting, .ok _ => waiting committing
  | inserting, .error f => waiting (undoing (f.toStoreError "insert_user"))
  | committing, .ok _ => ended (.ok j.member)
  | committing, .error f => waiting (undoing (f.toStoreError "commit_transaction"))
  | givingUp e _ more h, _ => leaving e more (List.forall_mem_cons.mp h).2

/-- What is left of the call. -/
def rest [TransactionManager] (j : Joining) : Progress → DatabaseProgram (Except StoreError Principal)
  | connecting => j.program
  | waiting beginning =>
    (Users.addUser j.organization j.email j.name j.new .idle).andThen fun (r, _) => pure r
  | waiting checking => midway do
      Users.ensureEmailFree j.email
      Users.joining j.organization j.email j.name j.new
  | waiting locking => midway (Users.joining j.organization j.email j.name j.new)
  | waiting (counting limit) => midway do
      let count ← Users.oneValue "count_sub_accounts" (.countSubAccounts j.organization) Cell.int8?
      Users.admitting j.organization j.email j.name j.new limit.toInt count.toInt
  | waiting inserting => midway do
      Users.insertUser j.member
      pure j.member
  | waiting committing => midway (pure j.member)
  | waiting (givingUp e s more _) => Step.leaving e (s :: more)
  | ended answer => .done answer

section

variable [m : TransactionManager] (j : Joining)

theorem rest_leaving (e : StoreError) (statements : List Statement)
    (h : ∀ s ∈ statements, s.givesUp = true) :
    j.rest (Progress.leaving e statements h) = Step.leaving e statements := by
  cases statements <;> rfl

theorem rest_connecting :
    j.rest connecting = .call .acquire fun
      | .ok () => j.rest (waiting beginning)
      | .error f => j.rest (ended (.error (f.toStoreError "begin_transaction"))) :=
  connected_eq "begin_transaction" _

theorem rest_beginning :
    j.rest (waiting beginning) = .call (.send .begin) fun reply => j.rest (j.after beginning reply) :=
  (transaction_eq "begin_transaction" _).trans (call_congr fun reply => by
    cases reply with
    | ok o => rfl
    | error f => exact (j.rest_leaving ..).symm)

theorem rest_checking :
    j.rest (waiting checking) =
      .call (.send (.emailTaken j.email)) fun reply => j.rest (j.after checking reply) := by
  rw [rest, Users.ensureEmailFree, bind_assoc, midway_oneValue]
  refine call_congr fun reply => ?_
  cases reply with
  | error f => rfl
  | ok o =>
    simp only [after, afterChecking]
    cases o.oneValue "check_email" Cell.bool? with
    | error e => rfl
    | ok taken =>
      cases taken with
      | true => exact midway_fail _
      | false => rfl

theorem rest_locking :
    j.rest (waiting locking) =
      .call (.send (.lockOrganization j.organization)) fun reply => j.rest (j.after locking reply) := by
  rw [rest, Users.joining, Users.lockedQuota, bind_assoc, midway_send]
  refine call_congr fun reply => ?_
  cases reply with
  | error f => rfl
  | ok o =>
    simp only [after, afterLocking]
    cases o.rows.head? with
    | none => exact midway_fail _
    | some row =>
      rw [midway_lift]
      dsimp only
      cases (row.single Cell.int4?).mapError (Failure.toStoreError "lock_organization") <;> rfl

theorem rest_counting (limit : Int32) :
    j.rest (waiting (counting limit)) =
      .call (.send (.countSubAccounts j.organization)) fun reply =>
        j.rest (j.after (counting limit) reply) := by
  rw [rest, midway_oneValue]
  refine call_congr fun reply => ?_
  cases reply with
  | error f => rfl
  | ok o =>
    simp only [after, afterCounting]
    cases o.oneValue "count_sub_accounts" Cell.int8? with
    | error e => rfl
    | ok count =>
      simp only [Users.admitting]
      by_cases hfull : limit.toInt ≤ count.toInt
      · rw [if_pos hfull, if_pos hfull]
        exact midway_fail _
      · rw [if_neg hfull, if_neg hfull]
        rfl

theorem rest_inserting :
    j.rest (waiting inserting) =
      .call (.send (.insertUser j.member)) fun reply => j.rest (j.after inserting reply) := by
  rw [rest, Users.insertUser, Users.perform, bind_assoc, midway_send]
  exact call_congr fun reply => by cases reply <;> rfl

theorem rest_committing :
    j.rest (waiting committing) =
      .call (.send .commit) fun reply => j.rest (j.after committing reply) :=
  (midway_pure _).trans (call_congr fun reply => by cases reply <;> rfl)

/-- At each place the statement is sent that is said above, and the reply taken so. -/
theorem rest_waiting (place : Place) :
    j.rest (waiting place) =
      .call (.send (j.statement place)) fun reply => j.rest (j.after place reply) := by
  cases place with
  | beginning => exact j.rest_beginning
  | checking => exact j.rest_checking
  | locking => exact j.rest_locking
  | counting limit => exact j.rest_counting limit
  | inserting => exact j.rest_inserting
  | committing => exact j.rest_committing
  | givingUp e s more h => exact call_congr fun reply => (j.rest_leaving ..).symm

/-- Whatever a refusal interrupts is given up. -/
theorem after_error (place : Place) (f : Failure) :
    ∃ e statements h, j.after place (.error f) = leaving e statements h := by
  cases place with
  | beginning => exact ⟨_, m.posted 0, m.givesUp_of_mem 0, rfl⟩
  | givingUp e s more h => exact ⟨e, more, (List.forall_mem_cons.mp h).2, rfl⟩
  | checking | locking | counting | inserting | committing =>
    exact ⟨_, [.rollback], by simp [Statement.givesUp], rfl⟩

end

end Joining

end TenantAuth.Postgres
