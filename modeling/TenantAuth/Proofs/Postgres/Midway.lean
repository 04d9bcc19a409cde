-- An operation in a transaction of its own, as the program that is left when the transaction
-- is open: a law for each way to go on.

import TenantAuth.Proofs.Postgres.Conversation

namespace TenantAuth.Postgres

theorem call_congr {α : Type} {c : Call} {next next' : c.Reply → DatabaseProgram α}
    (h : ∀ reply, next reply = next' reply) : Program.call c next = .call c next' :=
  congrArg (Program.call c) (funext h)

namespace Step

variable {ε α β γ : Type}

theorem bind_assoc (p : Step ε α) (f : α → Step ε β) (g : β → Step ε γ) :
    p >>= f >>= g = p >>= fun a => f a >>= g := by
  funext l
  change ((p l).andThen _).andThen _ = (p l).andThen _
  rw [Program.andThen_assoc]
  congr 1
  funext ⟨r, l'⟩
  cases r <;> rfl

theorem bind_pure (p : Step StoreError α) : p >>= pure = p := by
  funext l
  refine Eq.trans ?_ (Program.andThen_done (p l))
  change (p l).andThen _ = _
  congr 1
  funext ⟨x, l'⟩
  cases x <;> rfl

/-- What is left of an operation that goes on inside its transaction with `p`. -/
def midway (p : Step StoreError α) : DatabaseProgram (Except StoreError α) :=
  ((do
    let a ← orAbandon p
    within "commit_transaction" kept
    pure a : Step StoreError α) ⟨1, none⟩).andThen fun (r, _) => pure r

/-- The statements are sent, whatever the server replies to them, and the end is a failure. -/
def leaving (e : StoreError) : List Statement → DatabaseProgram (Except StoreError α)
  | [] => .done (.error e)
  | s :: rest => .call (.send s) fun _ => leaving e rest

/-- The transaction is given up. -/
def rollingBack (e : StoreError) : DatabaseProgram (Except StoreError α) := leaving e [.rollback]

theorem postAll_leaving (statements : List Statement) (l : Link) (e : StoreError) :
    (postAll statements l).andThen (fun _ => .done (.error e)) =
      (leaving e statements : DatabaseProgram (Except StoreError α)) := by
  induction statements generalizing l with
  | nil => rfl
  | cons s rest ih =>
    change Program.andThen (Program.andThen (post s l) (postAll rest)) _ = _
    rw [Program.andThen_assoc]
    refine call_congr fun reply => ?_
    cases reply <;> exact ih _

theorem takes_leaving {statements : List Statement} {e : StoreError} {t : List Sent}
    {r : Option (Except StoreError α)} (h : Takes (leaving e statements) t r) :
    t.map Sent.statement = statements ∧ r = some (.error e) := by
  induction statements generalizing t with
  | nil =>
    obtain ⟨rfl, rfl⟩ := h
    exact ⟨rfl, rfl⟩
  | cons s rest ih =>
    obtain ⟨reply, t, rfl, h⟩ := h
    obtain ⟨rfl, rfl⟩ := ih h
    exact ⟨rfl, rfl⟩

theorem connected_eq (operation : String) (p : Step StoreError α) :
    connected operation p =
      .call .acquire fun
        | .ok () => (p .idle).andThen fun (r, _) => pure r
        | .error f => .done (.error (f.toStoreError operation)) :=
  call_congr fun reply => by cases reply <;> rfl

theorem transaction_eq [m : TransactionManager] (operation : String) (p : Step StoreError α) :
    (transaction operation p .idle).andThen (fun (r, _) => pure r) =
      .call (.send .begin) fun
        | .ok _ => midway p
        | .error f => leaving (f.toStoreError operation) (m.posted 0) :=
  call_congr fun reply => by
    cases reply with
    | ok o => rfl
    | error f =>
      refine Eq.trans ?_ (postAll_leaving (m.posted 0) ⟨m.left 0, none⟩ _)
      change ((((unopened .idle).andThen _).andThen _).andThen _).andThen _ = _
      rw [Program.andThen_assoc, Program.andThen_assoc, Program.andThen_assoc]
      rfl

theorem midway_fail (e : StoreError) : midway (fail e : Step StoreError α) = rollingBack e :=
  call_congr fun reply => by cases reply <;> rfl

theorem midway_pure (a : α) :
    midway (pure a) = .call (.send .commit) fun
      | .ok _ => .done (.ok a)
      | .error f => rollingBack (f.toStoreError "commit_transaction") :=
  call_congr fun reply => by
    cases reply with
    | ok o => rfl
    | error f => exact call_congr fun reply => by cases reply <;> rfl

/-- A statement, and then what its outcome leads to. -/
theorem midway_send (operation : String) (s : Statement) (next : Outcome → Step StoreError α) :
    midway (within operation (send s) >>= next) = .call (.send s) fun
      | .ok o => midway (next o)
      | .error f => rollingBack (f.toStoreError operation) :=
  call_congr fun reply => by
    cases reply with
    | ok o => rfl
    | error f => exact call_congr fun reply => by cases reply <;> rfl

theorem midway_lift (x : Except StoreError β) (next : β → Step StoreError α) :
    midway (lift x >>= next) = match x with
      | .ok b => midway (next b)
      | .error e => rollingBack e := by
  cases x with
  | ok b => rfl
  | error e => exact midway_fail e

/-! ## Over any link -/

/-- An operation in a transaction of its own, from the beginning of the transaction. -/
def opening [TransactionManager] (operation : String) (p : Step StoreError α) :
    DatabaseProgram (Except StoreError α) :=
  (transaction operation p .idle).andThen fun (r, _) => pure r

theorem takes_opening [TransactionManager] {operation : String} {p : Step StoreError α}
    {t : List Sent} {r : Option (Except StoreError α)} (h : Takes (opening operation p) t r) :
    (∃ f posted, t = ⟨.begin, .error f⟩ :: posted ∧ (∀ e ∈ posted, e.statement.givesUp = true) ∧
      r = some (.error (f.toStoreError operation))) ∨
    ∃ o rest, t = ⟨.begin, .ok o⟩ :: rest ∧ Takes (midway p) rest r := by
  rw [opening, transaction_eq] at h
  obtain ⟨reply, rest, rfl, h⟩ := h
  cases reply with
  | error f =>
    obtain ⟨hposted, rfl⟩ := takes_leaving h
    exact Or.inl ⟨f, rest, rfl, givesUp_of_posted hposted, rfl⟩
  | ok o => exact Or.inr ⟨o, rest, rfl, h⟩

/-- How an operation ends that has come to a result over a link. -/
def settle : Except StoreError α × Link → DatabaseProgram (Except StoreError α)
  | (.ok a, l) => (within "commit_transaction" kept l).andThen fun (r, _) => pure (r.map fun _ => a)
  | (.error e, l) => (abandon l).andThen fun _ => pure (.error e)

/-- What is left of an operation that goes on over a link with `p`. -/
def goingOn (l : Link) (p : Step StoreError α) : DatabaseProgram (Except StoreError α) :=
  (p l).andThen settle

theorem midway_eq_goingOn (p : Step StoreError α) : midway p = goingOn ⟨1, none⟩ p := by
  change (((p ⟨1, none⟩).andThen _).andThen _).andThen _ = _
  rw [goingOn, Program.andThen_assoc, Program.andThen_assoc]
  congr 1
  funext ⟨x, l⟩
  cases x with
  | error e => exact Program.andThen_assoc ..
  | ok a =>
    refine (Program.andThen_assoc ..).trans ?_
    rw [settle]
    congr 1
    funext ⟨x, l⟩
    cases x <;> rfl

theorem goingOn_bind (l : Link) (p : Step StoreError α) (f : α → Step StoreError β) :
    goingOn l (p >>= f) = (p l).andThen fun
      | (.ok a, l) => goingOn l (f a)
      | (.error e, l) => settle (.error e, l) := by
  refine (Program.andThen_assoc ..).trans ?_
  congr 1
  funext ⟨x, l⟩
  cases x <;> rfl

/-- The ways to end a transaction, and what a call answers then. -/
inductive Closes : Option (Except StoreError α) → List Sent → Option (Except StoreError α) → Prop
  | broken : Closes none [] none
  | committed (a : α) (o : Outcome) : Closes (some (.ok a)) [⟨.commit, .ok o⟩] (some (.ok a))
  | uncommitted (a : α) (f : Failure) (reply : Except Failure Outcome) :
      Closes (some (.ok a)) [⟨.commit, .error f⟩, ⟨.rollback, reply⟩]
        (some (.error (f.toStoreError "commit_transaction")))
  | rolledBack (e : StoreError) (reply : Except Failure Outcome) :
      Closes (some (.error e)) [⟨.rollback, reply⟩] (some (.error e))

theorem closes_of_settle {x : Except StoreError α} {t : List Sent}
    {r : Option (Except StoreError α)} (h : Takes (settle (x, ⟨1, none⟩)) t r) :
    Closes (some x) t r := by
  cases x with
  | error e =>
    obtain ⟨reply, rest, rfl, h⟩ := h
    rcases reply with f | o <;> obtain ⟨rfl, rfl⟩ := h <;> exact .rolledBack e _
  | ok a =>
    obtain ⟨reply, rest, rfl, h⟩ := h
    cases reply with
    | ok o =>
      obtain ⟨rfl, rfl⟩ := h
      exact .committed a o
    | error f =>
      obtain ⟨reply, rest, rfl, h⟩ := h
      rcases reply with f' | o <;> obtain ⟨rfl, rfl⟩ := h <;> exact .uncommitted a f _

end Step

open Step

theorem talk_read {α β : Type} (server : Server) (p : DatabaseProgram α) (read : α → β) :
    server.talk (p.andThen fun x => .done (read x)) =
      ((server.talk p).1.map read, (server.talk p).2) := by
  unfold Server.talk
  rw [Program.run_andThen]
  rcases p.run server.answer [] with ⟨_ | a, said⟩ <;> rfl

/-- An operation gets a connection, and then it opens its transaction. -/
theorem talk_connected [TransactionManager] {α : Type} (server : Server)
    (operation operation' : String) (p : Step StoreError α) :
    server.talk (connected operation (transaction operation' p)) =
      match server.acquires with
      | .ok _ => server.talk (opening operation' p)
      | .error f => (some (.error (f.toStoreError operation)), []) := by
  rw [connected_eq]
  unfold Server.talk
  rw [Program.run]
  simp only [Server.answer, Server.reply, heard]
  cases server.acquires <;> rfl

end TenantAuth.Postgres
