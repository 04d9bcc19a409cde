-- Both stores in a database, and how the database is made ready.

import TenantAuth.Backend
import TenantAuth.Postgres.Sessions
import TenantAuth.Postgres.Users

namespace TenantAuth.Postgres

open Step

/-- One call to either store. -/
def answer [TransactionManager] : (c : BackendCall) → DatabaseProgram c.Reply
  | .sessions c => Sessions.answer c
  | .directory c => Users.answer c

/-- A computation over the stores, with both of them in a database. -/
def overDatabase [TransactionManager] {α : Type} (p : BackendProgram α) : DatabaseProgram α :=
  p.interpret answer

/-- Open the connections to the server that a URL names. -/
def connect (url : String) (maxConnections : UInt32) : DatabaseProgram (Except StoreError Unit) :=
  match Address.ofText url with
  | .error e => pure (.error ((Failure.settings e.message).toStoreError "connect"))
  | .ok address =>
    (Program.perform (Call.connect address maxConnections)).andThen fun r =>
      pure (r.mapError (Failure.toStoreError "connect"))

/-- Create the tables that do not exist. -/
def ensureSchema : DatabaseProgram (Except StoreError Unit) :=
  connected "ensure_schema" (Users.perform "ensure_schema" .schema)

end TenantAuth.Postgres
