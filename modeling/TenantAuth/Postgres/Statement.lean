-- The statements that are sent to the database: what each is for, its text,
-- its parameters, and the columns of its rows.

import TenantAuth.Postgres.Cell
import TenantAuth.Principal
import TenantAuth.Session

namespace TenantAuth.Postgres

inductive Statement where
  | begin
  | savepoint
  | release
  | rollbackToSavepoint
  | commit
  | rollback
  /-- Create the tables that do not exist. -/
  | schema
  | ping
  /-- Delete the sessions that are over. -/
  | sweep (now : Instant)
  /-- File a session in place of any other one of its user. -/
  | upsertSession (s : Session)
  | findSession (hash : String)
  /-- Delete a session and give back what it was. -/
  | consumeSession (hash : String)
  | deleteSession (hash : String)
  | deleteSessionsOf (user : UserId)
  /-- Create an organization of that id unless there is one. -/
  | reserveOrganization (id : OrganizationId)
  /-- Create an organization; the database sets the time. -/
  | insertOrganization (id : OrganizationId) (name tier : String) (maxSubAccounts : Int32)
  | setOwner (owner : UserId) (organization : OrganizationId)
  | emailTaken (email : String)
  /-- The quota of an organization, which nobody else changes or reads for a
  change until the transaction ends. -/
  | lockOrganization (id : OrganizationId)
  | countSubAccounts (organization : OrganizationId)
  | insertUser (p : Principal)
  | findUser (id : UserId)
  | findUserByEmail (email : String)
  | listUsers (organization : OrganizationId)
  deriving DecidableEq

namespace Statement

def sessionColumns : List (String × ColumnType) :=
  [("id", .uuid), ("user_id", .uuid), ("token_hash", .text), ("expires_at", .time),
   ("created_at", .time)]

def userColumns : List (String × ColumnType) :=
  [("id", .uuid), ("organization_id", .uuid), ("email", .text), ("name", .text), ("role", .text),
   ("permissions", .texts), ("created_at", .time)]

/-- The tables. -/
def schemaText : String :=
  " ".intercalate
    ["-- Tables read and written by the Postgres adapters.",
     "-- Every statement is idempotent so the file can be applied on each start.",
     "CREATE TABLE IF NOT EXISTS organizations ( id UUID PRIMARY KEY,",
     "name TEXT NOT NULL DEFAULT '', owner_id UUID,",
     "subscription_tier TEXT NOT NULL DEFAULT 'free',",
     "max_sub_accounts INTEGER NOT NULL DEFAULT 5 CHECK (max_sub_accounts >= 0),",
     "created_at TIMESTAMPTZ NOT NULL DEFAULT now() );",
     "ALTER TABLE organizations ADD COLUMN IF NOT EXISTS owner_id UUID;",
     "ALTER TABLE organizations ADD COLUMN IF NOT EXISTS subscription_tier",
     "TEXT NOT NULL DEFAULT 'free';",
     "ALTER TABLE organizations ADD COLUMN IF NOT EXISTS max_sub_accounts",
     "INTEGER NOT NULL DEFAULT 5;",
     "CREATE TABLE IF NOT EXISTS users ( id UUID PRIMARY KEY,",
     "organization_id UUID NOT NULL REFERENCES organizations (id),",
     "email TEXT NOT NULL UNIQUE, name TEXT NOT NULL DEFAULT '',",
     "role TEXT NOT NULL CHECK (role IN ('owner', 'admin', 'sub_account')),",
     "permissions TEXT[] NOT NULL DEFAULT '\x7b\x7d',",
     "created_at TIMESTAMPTZ NOT NULL DEFAULT now() );",
     "CREATE INDEX IF NOT EXISTS users_organization_id_idx ON users (organization_id);",
     "-- One live refresh session per user; only the SHA-256 hex of the secret is kept.",
     "CREATE TABLE IF NOT EXISTS refresh_tokens ( id UUID PRIMARY KEY,",
     "user_id UUID NOT NULL UNIQUE REFERENCES users (id) ON DELETE CASCADE,",
     "token_hash TEXT NOT NULL UNIQUE, expires_at TIMESTAMPTZ NOT NULL,",
     "created_at TIMESTAMPTZ NOT NULL DEFAULT now() );",
     "CREATE INDEX IF NOT EXISTS refresh_tokens_expires_at_idx ON refresh_tokens (expires_at);"]

/-- The text of a statement; parameters are numbered. -/
def sql : Statement → String
  | begin => "BEGIN"
  | savepoint => "SAVEPOINT _sqlx_savepoint_1"
  | release => "RELEASE SAVEPOINT _sqlx_savepoint_1"
  | rollbackToSavepoint => "ROLLBACK TO SAVEPOINT _sqlx_savepoint_1"
  | commit => "COMMIT"
  | rollback => "ROLLBACK"
  | schema => schemaText
  | ping => "SELECT 1"
  | sweep _ => "DELETE FROM refresh_tokens WHERE expires_at <= $1"
  | upsertSession _ =>
    "INSERT INTO refresh_tokens (id, user_id, token_hash, expires_at, created_at) " ++
    "VALUES ($1, $2, $3, $4, $5) ON CONFLICT (user_id) DO UPDATE SET id = EXCLUDED.id, " ++
    "token_hash = EXCLUDED.token_hash, expires_at = EXCLUDED.expires_at, " ++
    "created_at = EXCLUDED.created_at"
  | findSession _ =>
    "SELECT id, user_id, token_hash, expires_at, created_at FROM refresh_tokens " ++
    "WHERE token_hash = $1"
  | consumeSession _ =>
    "DELETE FROM refresh_tokens WHERE token_hash = $1 " ++
    "RETURNING id, user_id, token_hash, expires_at, created_at"
  | deleteSession _ => "DELETE FROM refresh_tokens WHERE token_hash = $1"
  | deleteSessionsOf _ => "DELETE FROM refresh_tokens WHERE user_id = $1"
  | reserveOrganization _ => "INSERT INTO organizations (id) VALUES ($1) ON CONFLICT (id) DO NOTHING"
  | insertOrganization .. =>
    "INSERT INTO organizations (id, name, subscription_tier, max_sub_accounts) " ++
    "VALUES ($1, $2, $3, $4) RETURNING created_at"
  | setOwner .. => "UPDATE organizations SET owner_id = $1 WHERE id = $2"
  | emailTaken _ => "SELECT EXISTS (SELECT 1 FROM users WHERE email = $1)"
  | lockOrganization _ => "SELECT max_sub_accounts FROM organizations WHERE id = $1 FOR UPDATE"
  | countSubAccounts _ =>
    "SELECT COUNT(*) FROM users WHERE organization_id = $1 AND role = 'sub_account'"
  | insertUser _ =>
    "INSERT INTO users (id, organization_id, email, name, role, permissions, created_at) " ++
    "VALUES ($1, $2, $3, $4, $5, $6, $7)"
  | findUser _ =>
    "SELECT id, organization_id, email, name, role, permissions, created_at FROM users " ++
    "WHERE id = $1"
  | findUserByEmail _ =>
    "SELECT id, organization_id, email, name, role, permissions, created_at FROM users " ++
    "WHERE email = $1"
  | listUsers _ =>
    "SELECT id, organization_id, email, name, role, permissions, created_at FROM users " ++
    "WHERE organization_id = $1 ORDER BY created_at, email"

/-- The parameters of a statement. Plain statements have none and are sent as
they are. -/
def params? : Statement → Option (List Cell)
  | begin | savepoint | release | rollbackToSavepoint | commit | rollback | schema => none
  | ping => some []
  | sweep now => some [.ofInstant now]
  | upsertSession s =>
    some [.uuid s.id.uuid, .uuid s.user.uuid, .text s.tokenHash, .ofInstant s.expiresAt,
      .ofInstant s.createdAt]
  | findSession hash | consumeSession hash | deleteSession hash => some [.text hash]
  | deleteSessionsOf user => some [.uuid user.uuid]
  | reserveOrganization id | lockOrganization id | countSubAccounts id | listUsers id =>
    some [.uuid id.uuid]
  | insertOrganization id name tier maxSubAccounts =>
    some [.uuid id.uuid, .text name, .text tier, .int4 maxSubAccounts]
  | setOwner owner organization => some [.uuid owner.uuid, .uuid organization.uuid]
  | emailTaken email | findUserByEmail email => some [.text email]
  | insertUser p =>
    some [.uuid p.id.uuid, .uuid p.organization.uuid, .text p.email, .text p.name,
      .text p.role.name, .texts p.overrides.items, .ofTimestamp p.createdAt]
  | findUser id => some [.uuid id.uuid]

/-- The columns of the rows that a statement gives back. -/
def columns : Statement → List (String × ColumnType)
  | findSession _ | consumeSession _ => sessionColumns
  | findUser _ | findUserByEmail _ | listUsers _ => userColumns
  | insertOrganization .. => [("created_at", .time)]
  | emailTaken _ => [("exists", .bool)]
  | lockOrganization _ => [("max_sub_accounts", .int4)]
  | countSubAccounts _ => [("count", .int8)]
  | ping => [("?column?", .int4)]
  | _ => []

end Statement

end TenantAuth.Postgres
