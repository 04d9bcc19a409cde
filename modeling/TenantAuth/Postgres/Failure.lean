-- Why the database gives no result, and what that means to the callers of a
-- store.

import TenantAuth.Error

namespace TenantAuth.Postgres

/-- Why there is no result. -/
inductive Failure where
  /-- The server refuses, with a code of five characters and its own words. -/
  | server (code text : String)
  /-- The server cannot be talked to. -/
  | link (text : String)
  /-- The settings do not say where the server is. -/
  | settings (text : String)
  /-- There are no connections any more. -/
  | closed
  /-- There is no row where there must be one. -/
  | noRow
  /-- There is no column of that name. -/
  | noColumn (name : String)
  /-- The row is too short to have a column at that place. -/
  | shortRow (length index : Nat)
  /-- A value is null or of the wrong type. The column is shown as it was asked
  for, by name or by place. -/
  | badValue (column reason : String)
  deriving DecidableEq, Repr

namespace Failure

/-- The code of a server for a broken rule of uniqueness. -/
def uniqueViolation : String := "23505"

def message : Failure → String
  | server _ text => "error returned from database: " ++ text
  | link text => "error communicating with database: " ++ text
  | settings text => "error with configuration: " ++ text
  | closed => "attempted to acquire a connection on a closed pool"
  | noRow => "no rows returned by a query that expected to return at least one row"
  | noColumn name => "no column found for name: " ++ name
  | shortRow length index =>
    "column index out of bounds: the len is " ++ toString length ++ ", but the index is "
      ++ toString index
  | badValue column reason => "error occurred while decoding column " ++ column ++ ": " ++ reason

/-- A failure in a named operation, as a failure of the store. -/
def toStoreError (operation : String) : Failure → StoreError
  | server code text =>
    let text := "database error in " ++ operation ++ ": " ++ text
    if code = uniqueViolation then .conflict text else .unavailable text
  | closed => .unavailable ("connection pool closed in " ++ operation)
  | e@(noColumn _) | e@(badValue ..) =>
    .corrupt ("decode error in " ++ operation ++ ": " ++ e.message)
  | e@(link _) | e@(settings _) | e@noRow | e@(shortRow ..) =>
    .unavailable ("sqlx error in " ++ operation ++ ": " ++ e.message)

end Failure

end TenantAuth.Postgres
