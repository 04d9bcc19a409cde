-- The store of sessions in a database. Whatever sweeps and then changes does
-- both in one transaction; the sweep has a savepoint of its own, so it may
-- fail without harm.

import TenantAuth.Postgres.Decode
import TenantAuth.Postgres.Link
import TenantAuth.Session.Store

namespace TenantAuth.Postgres.Sessions

open Step

/-- Drop what is over. A failure is given up and passed over. -/
def sweepInside [TransactionManager] (now : Instant) : Step StoreError Unit := fun l =>
  let sweep : Step Failure Unit := do
    opened
    orAbandon do
      let _ ← send (.sweep now)
      pure ()
    kept
  (sweep l).andThen fun (_, l) => pure (.ok (), l)

/-- File a session in place of any other one of its user. -/
def upsert (s : Session) : Step StoreError Unit := do
  let _ ← within "upsert_session" (send (.upsertSession s))
  pure ()

def replace [TransactionManager] (s : Session) : Step StoreError Unit :=
  transaction "replace" do
    sweepInside s.createdAt
    upsert s

/-- The row is read when the transaction has ended. -/
def findByHash [TransactionManager] (hash : String) (now : Instant) :
    Step StoreError (Option Session) := do
  let found ← transaction "find_by_hash" do
    sweepInside now
    within "find_by_hash" (send (.findSession hash))
  match found.rows.head? with
  | none => pure none
  | some row => do
    let s ← lift (sessionOfRow row)
    pure (some s)

/-- Deleting the row locks it, so of two rotations at once the second finds
nothing when the first has ended. -/
def rotate [TransactionManager] (hash newHash : String) (newId : SessionId) (now : Instant) :
    Step StoreError (Option Session) :=
  transaction "rotate" do
    sweepInside now
    let consumed ← within "consume_session" (send (.consumeSession hash))
    match consumed.rows.head? with
    | none => pure none
    | some row => do
      let s ← lift (sessionOfRow row)
      if s.isExpiredAt now then pure (some s)
      else
        match Session.fresh? newId s.user newHash now with
        | none => broken
        | some next => do
          upsert next
          pure (some s)

/-- Do something with one statement. -/
def single {α : Type} (operation : String) (s : Statement) (read : Outcome → α) :
    Step StoreError α := do
  let outcome ← within operation (send s)
  pure (read outcome)

/-- One call, over a connection of its own. -/
def answer [TransactionManager] : (c : SessionCall) → DatabaseProgram c.Reply
  | .replace s => connected "replace" (replace s)
  | .findByHash hash now => connected "find_by_hash" (findByHash hash now)
  | .rotate hash newHash newId now => connected "rotate" (rotate hash newHash newId now)
  | .deleteByHash hash =>
    connected "delete_by_hash"
      (single "delete_by_hash" (.deleteSession hash) fun o => decide (0 < o.affected))
  | .deleteForUser user =>
    connected "delete_for_user"
      (single "delete_for_user" (.deleteSessionsOf user) fun o => decide (0 < o.affected))
  | .sweepExpired now =>
    connected "sweep_expired" (single "sweep_expired" (.sweep now) Outcome.affected)
  | .ping => connected "ping" (single "ping" .ping fun _ => ())

end TenantAuth.Postgres.Sessions
