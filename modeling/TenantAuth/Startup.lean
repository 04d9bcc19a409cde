-- Setting up the service from its settings.

import TenantAuth.Api.Router
import TenantAuth.Config
import TenantAuth.Postgres.Backend

namespace TenantAuth

/-- Why the service cannot be set up. -/
inductive StartupError where
  | databaseRequired
  | connect (e : StoreError)
  | schema (e : StoreError)
  deriving DecidableEq, Repr

namespace StartupError

/-- An error and what is behind it. -/
def chain : StartupError → List String
  | databaseRequired => ["DATABASE_URL is required for persistent stores"]
  | connect e => ["failed to connect to Postgres", e.message]
  | schema e => ["failed to apply schema", e.message]

end StartupError

namespace Startup

/-- The service for some settings, without an identity provider. -/
def service (c : Config) (signer : Signer) : Api.Service where
  signer := signer
  roles := .standard
  provider := none
  stateLifetime := c.stateLifetime.toNat * 1000000000
  provisionsOwners := c.provisionsOwners

/-- Get the stores ready: open the database and create its tables, unless the
data is kept in memory. -/
def prepareStores (c : Config) : Postgres.DatabaseProgram (Except StartupError Unit) :=
  if c.persistent then
    match c.databaseUrl with
    | none => pure (.error .databaseRequired)
    | some url =>
      (Postgres.connect url c.maxConnections).andThen fun
        | .error e => pure (.error (.connect e))
        | .ok () =>
          Postgres.ensureSchema.andThen fun
            | .error e => pure (.error (.schema e))
            | .ok () => pure (.ok ())
  else pure (.ok ())

end Startup

end TenantAuth
