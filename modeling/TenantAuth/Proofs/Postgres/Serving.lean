-- What each call to the store in the database does to the table of sessions, when the
-- server does as it is told.

import TenantAuth.Proofs.Postgres.Conversation
import TenantAuth.Proofs.Postgres.Running
import TenantAuth.Proofs.Postgres.Tokens
import TenantAuth.Proofs.Session.Owner

namespace TenantAuth.Postgres

open Step

namespace Database

variable {α : Type}

/-- A statement for the table goes to the table. -/
theorem run_send {s : Statement} {o : Outcome} {d d' : Tokens} {saved : List Tokens} (depth : Nat)
    (hs : ∀ db, execute db s = ((db.tokens.execute s).1, { db with tokens := (db.tokens.execute s).2 }))
    (h : d.execute s = (.ok o, d')) :
    (send s ⟨depth, none⟩).run answer ⟨d, saved⟩ = (some (.ok o, ⟨depth, none⟩), ⟨d', saved⟩) := by
  apply Step.run_send
  change (some (execute ⟨d, saved⟩ s).1, (execute ⟨d, saved⟩ s).2) = _
  rw [hs, h]

theorem run_transaction [TransactionManager] {operation : String} {p : Step StoreError α} {a : α}
    {d d' : Tokens} (h : (p ⟨1, none⟩).run answer ⟨d, [d]⟩ = (some (.ok a, ⟨1, none⟩), ⟨d', [d]⟩)) :
    (transaction operation p .idle).run answer ⟨d, []⟩ = (some (.ok a, .idle), ⟨d', []⟩) :=
  Step.run_transaction rfl rfl h

theorem run_transaction_broken [TransactionManager] {operation operation' : String}
    {p : Step StoreError α} {d d' : Tokens}
    (h : (p ⟨1, none⟩).run answer ⟨d, [d]⟩ = (none, ⟨d', [d]⟩)) :
    (connected operation (transaction operation' p)).run answer ⟨d, []⟩ = (none, ⟨d', [d]⟩) :=
  run_connected_broken rfl (Step.run_transaction_broken rfl h)

theorem run_sweep [TransactionManager] {now : Instant} (h : Precise now) (d d₀ : Tokens) :
    (Sessions.sweepInside now ⟨1, none⟩).run answer ⟨d, [d₀]⟩ =
      (some (.ok (), ⟨1, none⟩), ⟨d.live now, [d₀]⟩) := by
  have hsavepoint : (opened ⟨1, none⟩).run answer ⟨d, [d₀]⟩ =
      (some (.ok (), ⟨2, none⟩), ⟨d, [d, d₀]⟩) := rfl
  have hsweep : ((send (.sweep now) >>= fun _ => pure () : Step Failure Unit) ⟨2, none⟩).run answer
      ⟨d, [d, d₀]⟩ = (some (.ok (), ⟨2, none⟩), ⟨d.live now, [d, d₀]⟩) := by
    rw [run_bind (run_send 2 (fun _ => rfl) (Tokens.execute_sweep h d))]
    rfl
  have hrelease : (kept ⟨2, none⟩).run answer ⟨d.live now, [d, d₀]⟩ =
      (some (.ok (), ⟨1, none⟩), ⟨d.live now, [d₀]⟩) := rfl
  unfold Sessions.sweepInside
  rw [Program.run_andThen, run_bind hsavepoint, run_bind (run_orAbandon hsweep), hrelease]
  rfl

/-! ## The calls -/

theorem serve_of_run [TransactionManager] {c : SessionCall} {d d' : Tokens} {reply : Option c.Reply}
    (h : (Sessions.answer c).run answer ⟨d, []⟩ = (reply, ⟨d', []⟩)) : serve d c = (reply, d') := by
  rw [serve, h]
  rfl

theorem run_upsert {s : Session} (hexpiry : Precise s.expiresAt) (hcreated : Precise s.createdAt)
    {d : Tokens} (h : d.Fits s) (saved : List Tokens) :
    (Sessions.upsert s ⟨1, none⟩).run answer ⟨d, saved⟩ =
      (some (.ok (), ⟨1, none⟩), ⟨d.upsert s h, saved⟩) := by
  rw [Sessions.upsert, run_bind (run_within (run_send 1 (fun _ => rfl)
    (Tokens.execute_upsert hexpiry hcreated h)))]
  rfl

theorem serve_replace [TransactionManager] {s : Session} (hexpiry : Precise s.expiresAt)
    (hcreated : Precise s.createdAt) {d : Tokens} (h : (d.live s.createdAt).Fits s) :
    serve d (.replace s) = (some (.ok ()), (d.live s.createdAt).upsert s h) := by
  apply serve_of_run
  apply run_connected rfl
  apply run_transaction
  rw [run_bind (run_sweep hcreated d d), run_upsert hexpiry hcreated h]

theorem serve_findByHash [TransactionManager] {now : Instant} (h : Precise now) (hash : String)
    (d : Tokens) :
    serve d (.findByHash hash now) = (some (.ok ((d.live now).find? hash)), d.live now) := by
  have hfound : (transaction "find_by_hash" (do
      Sessions.sweepInside now
      within "find_by_hash" (send (.findSession hash))) .idle).run answer ⟨d, []⟩ =
      (some (.ok ((d.live now).outcome fun r => r.tokenHash = hash), .idle), ⟨d.live now, []⟩) := by
    apply run_transaction
    rw [run_bind (run_sweep h d d)]
    exact run_within (run_send 1 (fun _ => rfl) rfl)
  apply serve_of_run
  apply run_connected rfl
  rw [Sessions.findByHash, run_bind hfound, Tokens.head?_outcome]
  cases (d.live now).find? hash <;> rfl

/-! ## Rotations -/

section

variable {hash newHash : String} {newId : SessionId} {now : Instant} {d : Tokens}

theorem run_consume [TransactionManager] (h : Precise now) :
    ((do
      Sessions.sweepInside now
      let consumed ← within "consume_session" (send (.consumeSession hash))
      Sessions.exchange newHash newId now consumed : Step StoreError (Option Session))
      ⟨1, none⟩).run answer ⟨d, [d]⟩ =
    (Sessions.exchange newHash newId now ((d.live now).outcome fun r => r.tokenHash = hash)
      ⟨1, none⟩).run answer ⟨(d.live now).keep fun r => r.tokenHash ≠ hash, [d]⟩ := by
  rw [run_bind (run_sweep h d d), run_bind (run_within (run_send 1 (fun _ => rfl) rfl))]

/-- What a rotation does with the row that it deleted. -/
theorem exchange_found {s : Session} (hs : (d.live now).find? hash = some s) :
    Sessions.exchange newHash newId now ((d.live now).outcome fun r => r.tokenHash = hash) =
      (match Session.fresh? newId s.user newHash now with
      | none => broken
      | some next => do
        Sessions.upsert next
        pure (some s)) := by
  have hlive := Tokens.not_expired_of_mem_live (Tokens.find?_eq_some_iff.mp hs).1
  have hread : sessionOfRow (Tokens.rowOf s) = .ok s := by
    rw [sessionOfRow, Tokens.session_rowOf]
    rfl
  unfold Sessions.exchange
  rw [Tokens.head?_outcome, hs]
  simp only [Option.map_some, hread]
  change (if s.isExpiredAt now then _ else _) = _
  rw [hlive]
  rfl

theorem serve_rotate_absent [TransactionManager] (h : Precise now)
    (hs : (d.live now).find? hash = none) :
    serve d (.rotate hash newHash newId now) = (some (.ok none), d.live now) := by
  apply serve_of_run
  apply run_connected rfl
  rw [Sessions.rotate_eq]
  apply run_transaction
  rw [run_consume h]
  unfold Sessions.exchange
  rw [Tokens.head?_outcome, hs, Tokens.keep_of_find?_eq_none hs]
  rfl

/-- A rotation that breaks down leaves the table as it was. -/
theorem serve_rotate_broken [TransactionManager] (h : Precise now) {s : Session}
    (hs : (d.live now).find? hash = some s) (hnext : Session.fresh? newId s.user newHash now = none) :
    serve d (.rotate hash newHash newId now) = (none, d) := by
  have hrun : (Sessions.answer (.rotate hash newHash newId now)).run answer ⟨d, []⟩ =
      (none, ⟨(d.live now).keep fun r => r.tokenHash ≠ hash, [d]⟩) := by
    change (connected "rotate" (Sessions.rotate hash newHash newId now)).run answer _ = _
    rw [Sessions.rotate_eq]
    apply run_transaction_broken
    rw [run_consume h, exchange_found hs, hnext]
    rfl
  rw [serve, hrun]
  rfl

theorem serve_rotate_found [TransactionManager] (h : Precise now) {s next : Session}
    (hs : (d.live now).find? hash = some s)
    (hnext : Session.fresh? newId s.user newHash now = some next)
    (hfits : ((d.live now).keep fun r => r.tokenHash ≠ hash).Fits next) :
    serve d (.rotate hash newHash newId now) =
      (some (.ok (some s)), ((d.live now).keep fun r => r.tokenHash ≠ hash).upsert next hfits) := by
  obtain ⟨expiry, hexpiry, rfl⟩ := Session.fresh?_eq_some_iff.mp hnext
  have hprecise : Precise expiry := by
    unfold Precise at *
    rw [hexpiry]
    unfold Session.lifetime
    omega
  apply serve_of_run
  apply run_connected rfl
  rw [Sessions.rotate_eq]
  apply run_transaction
  rw [run_consume h]
  rw [exchange_found hs, hnext]
  change ((Sessions.upsert _ >>= fun _ => pure (some s)) _).run _ _ = _
  rw [run_bind (run_upsert hprecise h hfits _)]
  rfl

end

/-! ## Deletions -/

theorem run_single {α : Type} {operation : String} {s : Statement} {o : Outcome} {d d' : Tokens}
    (read : Outcome → α)
    (hs : ∀ db, execute db s = ((db.tokens.execute s).1, { db with tokens := (db.tokens.execute s).2 }))
    (h : d.execute s = (.ok o, d')) :
    (connected operation (Sessions.single operation s read)).run answer ⟨d, []⟩ =
      (some (.ok (read o)), ⟨d', []⟩) := by
  apply run_connected rfl
  change ((within operation (send s) >>= fun o => pure (read o)) ⟨0, none⟩).run answer _ = _
  rw [run_bind (run_within (run_send 0 hs h))]
  rfl

theorem serve_deleteByHash [TransactionManager] (hash : String) (d : Tokens) :
    serve d (.deleteByHash hash) =
      (some (.ok (decide (0 < (d.rows.filter fun r => r.tokenHash = hash).length))),
        d.keep fun r => r.tokenHash ≠ hash) := by
  have h : d.execute (.deleteSession hash) =
    (.ok (d.affected fun r => r.tokenHash = hash), d.keep fun r => r.tokenHash ≠ hash) := rfl
  exact serve_of_run (run_single _ (fun _ => rfl) h)

theorem serve_deleteForUser [TransactionManager] (user : UserId) (d : Tokens) :
    serve d (.deleteForUser user) =
      (some (.ok (decide (0 < (d.rows.filter fun r => r.user = user).length))),
        d.keep fun r => r.user ≠ user) := by
  have h : d.execute (.deleteSessionsOf user) =
    (.ok (d.affected fun r => r.user = user), d.keep fun r => r.user ≠ user) := rfl
  exact serve_of_run (run_single _ (fun _ => rfl) h)

theorem serve_sweepExpired [TransactionManager] {now : Instant} (h : Precise now) (d : Tokens) :
    serve d (.sweepExpired now) =
      (some (.ok (d.rows.filter fun r => r.expiresAt ≤ now).length), d.live now) :=
  serve_of_run (run_single _ (fun _ => rfl) (Tokens.execute_sweep h d))

theorem serve_ping [TransactionManager] (d : Tokens) : serve d .ping = (some (.ok ()), d) :=
  serve_of_run (run_single _ (fun _ => rfl) rfl)

end Database

end TenantAuth.Postgres
