-- A connection to the database while an operation uses it, and transactions
-- on it. A transaction that is given up is rolled back; the server's reply
-- to that is not waited for, so a refusal of it comes to light only with the
-- next statement. What the client does where a transaction cannot be opened is
-- left open, since its releases differ in that.

import TenantAuth.Postgres.Address
import TenantAuth.Postgres.Statement
import TenantAuth.Program

namespace TenantAuth.Postgres

/-- What a statement gives back. -/
structure Outcome where
  rows : List Row
  /-- How many rows the statement has changed. -/
  affected : Nat
  deriving DecidableEq

/-- What is asked of the database. -/
inductive Call where
  /-- Open the connections; later calls use them. -/
  | connect (address : Address) (maxConnections : UInt32)
  /-- Get a connection that nobody else uses. -/
  | acquire
  /-- Send a statement over the connection. -/
  | send (s : Statement)

abbrev Call.Reply : Call → Type
  | .connect .. => Except Failure Unit
  | .acquire => Except Failure Unit
  | .send _ => Except Failure Outcome

/-- A computation over a database. -/
abbrev DatabaseProgram := Program Call Call.Reply

/-- The state of a connection in use. -/
structure Link where
  /-- How many transactions are open, one inside the other. -/
  depth : Nat
  /-- A refusal that has not come to light. -/
  owed : Option Failure
  deriving DecidableEq, Repr

namespace Link

def idle : Link := ⟨0, none⟩

end Link

/-! ## Transactions that cannot be opened -/

/-- The statement gives up a transaction, or what was done in it since a savepoint. -/
def Statement.givesUp : Statement → Bool
  | .rollback | .rollbackToSavepoint => true
  | _ => false

theorem Statement.givesUp_iff {s : Statement} :
    s.givesUp = true ↔ s = .rollback ∨ s = .rollbackToSavepoint := by
  cases s <;> simp [givesUp]

/-- What the client does where the server does not let it open a transaction, or one inside
another. -/
class TransactionManager where
  /-- What is sent then, by how many transactions are open. The replies are not waited for. -/
  posted : Nat → List Statement
  /-- How many of the open transactions are left. -/
  left : Nat → Nat
  givesUp_of_mem : ∀ depth s, s ∈ posted depth → s.givesUp = true
  left_le : ∀ depth, left depth ≤ depth
  /-- Nothing is left open where all is rolled back, and only there. -/
  rollback_mem_iff : ∀ depth, depth ≠ 0 → (.rollback ∈ posted depth ↔ left depth = 0)

namespace TransactionManager

/-- A client that counts a transaction when it asks for it. If it is refused, that one alone is
given up. -/
@[reducible] def countingFirst : TransactionManager where
  posted
    | 0 => [.rollback]
    | _ + 1 => [.rollbackToSavepoint]
  left depth := depth
  givesUp_of_mem := by rintro (_ | depth) s hs <;> cases List.mem_singleton.mp hs <;> rfl
  left_le _ := Nat.le_refl _
  rollback_mem_iff := by rintro (_ | depth) h <;> simp_all

/-- A client that counts a transaction when it has it. If it is refused, the innermost of the
open ones is given up. -/
@[reducible] def countingLast : TransactionManager where
  posted
    | 0 => []
    | 1 => [.rollback]
    | _ + 2 => [.rollbackToSavepoint]
  left depth := depth - 1
  givesUp_of_mem := by rintro (_ | _ | depth) s hs <;> simp_all [Statement.givesUp]
  left_le depth := Nat.sub_le depth 1
  rollback_mem_iff := by rintro (_ | _ | depth) h <;> simp_all

namespace CountingFirst

scoped instance manager : TransactionManager := countingFirst

end CountingFirst

end TransactionManager

/-! ## Steps -/

/-- A part of an operation: it uses a connection and ends with a value or a
failure of kind `ε`. -/
def Step (ε α : Type) : Type := Link → DatabaseProgram (Except ε α × Link)

namespace Step

variable {ε α β : Type}

instance : Monad (Step ε) where
  pure a := fun l => pure (.ok a, l)
  bind p f := fun l => (p l).andThen fun
    | (.ok a, l) => f a l
    | (.error e, l) => pure (.error e, l)

def fail (e : ε) : Step ε α := fun l => pure (.error e, l)

/-- Nothing more happens. -/
def broken : Step ε α := fun _ => .broken

/-- Go on with the value of a result, or end with its failure. -/
def lift : Except ε α → Step ε α
  | .ok a => pure a
  | .error e => fail e

/-- Name the operation in which something fails. -/
def within (operation : String) (p : Step Failure α) : Step StoreError α := fun l =>
  (p l).andThen fun (r, l) => pure (r.mapError (Failure.toStoreError operation), l)

/-- Send a statement and wait for the reply. If a refusal is owed, that is the
reply, and the statement is not sent. -/
def send (s : Statement) : Step Failure Outcome := fun l =>
  match l.owed with
  | some f => pure (.error f, { l with owed := none })
  | none => (Program.perform (Call.send s)).andThen fun r => pure (r, l)

/-- Send a statement and do not wait for the reply. -/
def post (s : Statement) (l : Link) : DatabaseProgram Link :=
  (Program.perform (Call.send s)).andThen fun
    | .ok _ => pure l
    | .error f => pure { l with owed := some (l.owed.getD f) }

/-- Send statements one after the other and wait for no reply. -/
def postAll : List Statement → Link → DatabaseProgram Link
  | [], l => pure l
  | s :: rest, l => (post s l).andThen (postAll rest)

/-! ## Transactions -/

/-- Give up the innermost transaction, if one is open. -/
def abandon (l : Link) : DatabaseProgram Link :=
  match l.depth with
  | 0 => pure l
  | 1 => post .rollback { l with depth := 0 }
  | depth + 1 => post .rollbackToSavepoint { l with depth }

/-- Go on as the client does where no transaction could be opened. -/
def unopened [m : TransactionManager] (l : Link) : DatabaseProgram Link :=
  postAll (m.posted l.depth) { l with depth := m.left l.depth }

/-- Open a transaction, or one inside another. -/
def opened [TransactionManager] : Step Failure Unit := fun l =>
  (send (if l.depth = 0 then .begin else .savepoint) l).andThen fun
    | (.ok _, l) => pure (.ok (), { l with depth := l.depth + 1 })
    | (.error f, l) => (unopened l).andThen fun l => pure (.error f, l)

/-- Make the innermost transaction last, if one is open. If that fails, it is
given up. -/
def kept : Step Failure Unit := fun l =>
  match l.depth with
  | 0 => pure (.ok (), l)
  | depth + 1 =>
    (send (if depth = 0 then .commit else .release) l).andThen fun
      | (.ok _, l) => pure (.ok (), { l with depth })
      | (.error f, l) => (abandon l).andThen fun l => pure (.error f, l)

/-- Go on inside an open transaction; if that fails, give it up. -/
def orAbandon (p : Step ε α) : Step ε α := fun l =>
  (p l).andThen fun
    | (.ok a, l) => pure (.ok a, l)
    | (.error e, l) => (abandon l).andThen fun l => pure (.error e, l)

/-- Do something in a transaction of its own. `operation` is where it fails if
it cannot be opened. -/
def transaction [TransactionManager] (operation : String) (p : Step StoreError α) :
    Step StoreError α := do
  within operation opened
  let a ← orAbandon p
  within "commit_transaction" kept
  pure a

/-- Do something over a connection that is idle. -/
def connected (operation : String) (p : Step StoreError α) :
    DatabaseProgram (Except StoreError α) :=
  (Program.perform Call.acquire).andThen fun
    | .error f => pure (.error (f.toStoreError operation))
    | .ok () => (p .idle).andThen fun (r, _) => pure r

end Step

end TenantAuth.Postgres
