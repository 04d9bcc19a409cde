-- What an operation comes to once it is known what its statements come to, whoever
-- carries them out.

import TenantAuth.Postgres.Link
import TenantAuth.Proofs.Program

namespace TenantAuth.Postgres

open Step

variable {ε α β σ : Type} {answer : (c : Call) → σ → Option c.Reply × σ}

namespace Step

theorem run_bind {p : Step ε α} {f : α → Step ε β} {a : α} {l l' : Link} {s s' : σ}
    (h : (p l).run answer s = (some (.ok a, l'), s')) :
    ((p >>= f) l).run answer s = (f a l').run answer s' := by
  change ((p l).andThen _).run answer s = _
  rw [Program.run_andThen, h]

theorem run_bind_error {p : Step ε α} {e : ε} {l l' : Link} {s s' : σ} (f : α → Step ε β)
    (h : (p l).run answer s = (some (.error e, l'), s')) :
    ((p >>= f) l).run answer s = (some (.error e, l'), s') := by
  change ((p l).andThen _).run answer s = _
  rw [Program.run_andThen, h]
  rfl

theorem run_bind_broken {p : Step ε α} {l : Link} {s s' : σ} (f : α → Step ε β)
    (h : (p l).run answer s = (none, s')) : ((p >>= f) l).run answer s = (none, s') := by
  change ((p l).andThen _).run answer s = _
  rw [Program.run_andThen, h]

theorem run_send {stmt : Statement} {reply : Except Failure Outcome} {s s' : σ} (depth : Nat)
    (h : answer (.send stmt) s = (some reply, s')) :
    (send stmt ⟨depth, none⟩).run answer s = (some (reply, ⟨depth, none⟩), s') := by
  change ((Program.perform (Call.send stmt)).andThen _).run answer s = _
  rw [Program.run_andThen, Program.perform, Program.run_call_some h]
  rfl

theorem run_within {operation : String} {p : Step Failure α} {a : α} {l l' : Link} {s s' : σ}
    (h : (p l).run answer s = (some (.ok a, l'), s')) :
    (within operation p l).run answer s = (some (.ok a, l'), s') := by
  unfold within
  rw [Program.run_andThen, h]
  rfl

theorem run_orAbandon {p : Step ε α} {a : α} {l l' : Link} {s s' : σ}
    (h : (p l).run answer s = (some (.ok a, l'), s')) :
    (orAbandon p l).run answer s = (some (.ok a, l'), s') := by
  unfold orAbandon
  rw [Program.run_andThen, h]
  rfl

theorem run_orAbandon_broken {p : Step ε α} {l : Link} {s s' : σ}
    (h : (p l).run answer s = (none, s')) : (orAbandon p l).run answer s = (none, s') := by
  unfold orAbandon
  rw [Program.run_andThen, h]

theorem run_connected {operation : String} {p : Step StoreError α} {x : Except StoreError α}
    {l : Link} {s s' : σ} (hacquire : answer .acquire s = (some (.ok ()), s))
    (h : (p .idle).run answer s = (some (x, l), s')) :
    (connected operation p).run answer s = (some x, s') := by
  rw [connected, Program.run_andThen, Program.perform, Program.run_call_some hacquire]
  change ((p .idle).andThen _).run answer s = _
  rw [Program.run_andThen, h]
  rfl

theorem run_connected_broken {operation : String} {p : Step StoreError α} {s s' : σ}
    (hacquire : answer .acquire s = (some (.ok ()), s)) (h : (p .idle).run answer s = (none, s')) :
    (connected operation p).run answer s = (none, s') := by
  rw [connected, Program.run_andThen, Program.perform, Program.run_call_some hacquire]
  change ((p .idle).andThen _).run answer s = _
  rw [Program.run_andThen, h]

/-! ### Transactions -/

section

variable {m : TransactionManager} {operation operation' : String} {p : Step StoreError α}
  {o o' : Outcome} {s s₁ s₂ s' : σ}

theorem run_opened (hbegin : answer (.send .begin) s = (some (.ok o), s₁)) :
    (within operation opened .idle).run answer s = (some (.ok (), ⟨1, none⟩), s₁) := by
  apply run_within
  change ((send .begin .idle).andThen _).run answer s = _
  rw [Program.run_andThen, Link.idle, run_send 0 hbegin]
  rfl

/-- What is done in a transaction is kept when it ends well. -/
theorem run_transaction {a : α} (hbegin : answer (.send .begin) s = (some (.ok o), s₁))
    (hcommit : answer (.send .commit) s₂ = (some (.ok o'), s'))
    (h : (p ⟨1, none⟩).run answer s₁ = (some (.ok a, ⟨1, none⟩), s₂)) :
    (transaction operation p .idle).run answer s = (some (.ok a, .idle), s') := by
  have hkept : (within "commit_transaction" kept ⟨1, none⟩).run answer s₂ =
      (some (.ok (), .idle), s') := by
    apply run_within
    change ((send .commit ⟨1, none⟩).andThen _).run answer s₂ = _
    rw [Program.run_andThen, run_send 1 hcommit]
    rfl
  rw [transaction, run_bind (run_opened hbegin), run_bind (run_orAbandon h), run_bind hkept]
  rfl

/-- What is done in a transaction is rolled back when it ends in a failure. -/
theorem run_transaction_error {e : StoreError}
    (hbegin : answer (.send .begin) s = (some (.ok o), s₁))
    (hrollback : answer (.send .rollback) s₂ = (some (.ok o'), s'))
    (h : (p ⟨1, none⟩).run answer s₁ = (some (.error e, ⟨1, none⟩), s₂)) :
    (transaction operation p .idle).run answer s = (some (.error e, .idle), s') := by
  have habandoned : (orAbandon p ⟨1, none⟩).run answer s₁ = (some (.error e, .idle), s') := by
    rw [orAbandon, Program.run_andThen, h]
    change ((post .rollback .idle).andThen _).run answer s₂ = _
    rw [post, Program.run_andThen, Program.run_andThen, Program.perform,
      Program.run_call_some hrollback]
    rfl
  rw [transaction, run_bind (run_opened hbegin), run_bind_error _ habandoned]

/-- A transaction in which something breaks down stays open. -/
theorem run_transaction_broken (hbegin : answer (.send .begin) s = (some (.ok o), s₁))
    (h : (p ⟨1, none⟩).run answer s₁ = (none, s₂)) :
    (transaction operation p .idle).run answer s = (none, s₂) := by
  rw [transaction, run_bind (run_opened hbegin), run_bind_broken _ (run_orAbandon_broken h)]

end

end Step

/-! ## Statements that fail -/

/-- A statement that was sent, and refused. -/
def Failed : Program.Asked Call Call.Reply → Prop
  | ⟨.send _, some (.error _)⟩ => True
  | _ => False

instance : (q : Program.Asked Call Call.Reply) → Decidable (Failed q)
  | ⟨.send _, some (.error _)⟩ => isTrue trivial
  | ⟨.send _, some (.ok _)⟩ | ⟨.send _, none⟩ | ⟨.acquire, _⟩ | ⟨.connect .., _⟩ => isFalse id

/-- No statement fails that is sent in a run of the program. -/
def NoneFails (answer : (c : Call) → σ → Option c.Reply × σ) (p : DatabaseProgram α) (s : σ) : Prop :=
  ∀ q ∈ p.asked answer s, ¬ Failed q

instance (p : DatabaseProgram α) (s : σ) : Decidable (NoneFails answer p s) :=
  inferInstanceAs (Decidable (∀ q ∈ p.asked answer s, _))

theorem noneFails_of_andThen {p : DatabaseProgram α} {f : α → DatabaseProgram β} {s : σ}
    (h : NoneFails answer (p.andThen f) s) :
    NoneFails answer p s ∧ ∀ a s', p.run answer s = (some a, s') → NoneFails answer (f a) s' := by
  unfold NoneFails at *
  rw [Program.asked_andThen] at h
  refine ⟨fun q hq => h q (List.mem_append_left _ hq), fun a s' hrun q hq => h q ?_⟩
  rw [hrun]
  exact List.mem_append_right _ hq

theorem noneFails_of_bind {p : Step ε α} {f : α → Step ε β} {l : Link} {s : σ}
    (h : NoneFails answer ((p >>= f) l) s) : NoneFails answer (p l) s :=
  (noneFails_of_andThen h).1

theorem noneFails_next {p : Step ε α} {f : α → Step ε β} {a : α} {l l' : Link} {s s' : σ}
    (h : NoneFails answer ((p >>= f) l) s) (hrun : (p l).run answer s = (some (.ok a, l'), s')) :
    NoneFails answer (f a l') s' :=
  (noneFails_of_andThen h).2 _ _ hrun

/-- A statement that does not fail has an outcome. -/
theorem NoneFails.send {stmt : Statement} {reply : Except Failure Outcome} {s s' : σ} {depth : Nat}
    (h : NoneFails answer (send stmt ⟨depth, none⟩) s)
    (hreply : answer (.send stmt) s = (some reply, s')) : ∃ o, reply = .ok o := by
  change NoneFails answer ((Program.perform (Call.send stmt)).andThen _) s at h
  have hasked := (noneFails_of_andThen h).1
  unfold NoneFails Program.perform at hasked
  rw [Program.asked_call_some hreply] at hasked
  cases reply with
  | ok o => exact ⟨o, rfl⟩
  | error f => exact absurd trivial (hasked _ List.mem_cons_self)

theorem noneFails_within {operation : String} {p : Step Failure α} {l : Link} {s : σ}
    (h : NoneFails answer (within operation p l) s) : NoneFails answer (p l) s :=
  (noneFails_of_andThen h).1

theorem noneFails_orAbandon {p : Step ε α} {l : Link} {s : σ}
    (h : NoneFails answer (orAbandon p l) s) : NoneFails answer (p l) s :=
  (noneFails_of_andThen h).1

theorem noneFails_connected {operation : String} {p : Step StoreError α} {s : σ}
    (hacquire : answer .acquire s = (some (.ok ()), s))
    (h : NoneFails answer (connected operation p) s) : NoneFails answer (p .idle) s := by
  have hnext := (noneFails_of_andThen h).2 (.ok ()) s
    (by rw [Program.perform, Program.run_call_some hacquire]; rfl)
  exact (noneFails_of_andThen hnext).1

theorem noneFails_transaction {m : TransactionManager} {operation : String} {p : Step StoreError α}
    {o : Outcome} {s s₁ : σ}
    (hbegin : answer (.send .begin) s = (some (.ok o), s₁))
    (h : NoneFails answer (transaction operation p .idle) s) :
    NoneFails answer (p ⟨1, none⟩) s₁ := by
  unfold transaction at h
  have hopen := noneFails_next h (run_opened hbegin)
  exact noneFails_orAbandon (noneFails_of_bind hopen)

end TenantAuth.Postgres
