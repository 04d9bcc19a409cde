-- Reading values of the domain out of rows.

import TenantAuth.Postgres.Failure
import TenantAuth.Postgres.Statement

namespace TenantAuth.Postgres

namespace Row

/-- A value of a column, which is shown as `column` where it cannot be read. -/
def value {α : Type} (column : String) (read : Cell → Option α) : Cell → Except Failure α
  | .null => .error (.badValue column "unexpected null; try decoding as an `Option`")
  | cell =>
    match read cell with
    | some a => .ok a
    | none => .error (.badValue column "mismatched types")

/-- The value under a name. Of several columns of one name the last one counts. -/
def column? (r : Row) (name : String) : Option Cell := r.cells.reverse.lookup name

def get {α : Type} (r : Row) (name : String) (read : Cell → Option α) : Except Failure α :=
  match r.column? name with
  | none => .error (.noColumn name)
  | some cell => value ("\"" ++ name ++ "\"") read cell

/-- The value of a row that has just one. -/
def single {α : Type} (r : Row) (read : Cell → Option α) : Except Failure α :=
  match r.cells with
  | [] => .error (.shortRow 0 0)
  | (_, cell) :: _ => value "0" read cell

def session (r : Row) : Except Failure Session := do
  let id ← r.get "id" Cell.uuid?
  let user ← r.get "user_id" Cell.uuid?
  let tokenHash ← r.get "token_hash" Cell.text?
  let expiresAt ← r.get "expires_at" Cell.time?
  let createdAt ← r.get "created_at" Cell.time?
  .ok ⟨⟨id⟩, ⟨user⟩, tokenHash, expiresAt, createdAt⟩

/-- A user whose role is still a name. -/
def user (r : Row) : Except Failure (Uuid × String × (Role → Principal)) := do
  let id ← r.get "id" Cell.uuid?
  let organization ← r.get "organization_id" Cell.uuid?
  let email ← r.get "email" Cell.text?
  let name ← r.get "name" Cell.text?
  let role ← r.get "role" Cell.text?
  let overrides ← r.get "permissions" Cell.texts?
  let createdAt ← r.get "created_at" Cell.time?
  .ok (id, role, fun role =>
    ⟨⟨id⟩, ⟨organization⟩, email, name, role, .ofList overrides, .ofInstant createdAt⟩)

end Row

/-- The session that a row holds. -/
def sessionOfRow (r : Row) : Except StoreError Session :=
  r.session.mapError (Failure.toStoreError "decode_session")

/-- The user that a row holds. A role must have one of the names of roles. -/
def principalOfRow (r : Row) : Except StoreError Principal :=
  match r.user with
  | .error f => .error (f.toStoreError "decode_user")
  | .ok (id, role, principal) =>
    match Role.ofName role with
    | .ok role => .ok (principal role)
    | .error e => .error (.corrupt ("user " ++ id.toText ++ ": " ++ e.message))

end TenantAuth.Postgres
