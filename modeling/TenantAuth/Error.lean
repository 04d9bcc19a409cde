-- What can go wrong, as causes. Failures of stores and of components turn
-- into one small taxonomy that callers see.

namespace TenantAuth

/-- The failures a caller can tell apart. -/
inductive AuthError where
  /-- No valid access token or refresh secret. -/
  | unauthenticated
  /-- Known, but not allowed. -/
  | forbidden
  /-- What the request acts on does not exist. -/
  | notFound
  /-- A rule of uniqueness was violated. -/
  | conflict (text : String)
  /-- A store failed; the operation may be tried again. -/
  | transient (text : String)
  /-- Something failed that no input of a caller causes. -/
  | internal (text : String)
  deriving DecidableEq, Repr

namespace AuthError

def message : AuthError → String
  | unauthenticated => "unauthenticated"
  | forbidden => "forbidden"
  | notFound => "not found"
  | conflict text => "conflict: " ++ text
  | transient text => "transient failure: " ++ text
  | internal text => "internal error: " ++ text

/-- The failures that mean "who are you?" rather than "you may not". -/
def isAuthenticationFailure : AuthError → Bool
  | unauthenticated | notFound => true
  | _ => false

end AuthError

/-- A failure of a session store or a user directory. -/
inductive StoreError where
  /-- The store could not be reached, or failed in the middle. -/
  | unavailable (text : String)
  /-- A rule of uniqueness rejected the write. -/
  | conflict (text : String)
  /-- A stored row is no value of the domain. -/
  | corrupt (text : String)
  /-- The row that a write depends on does not exist. -/
  | missing (text : String)
  /-- A quota rejected the write. -/
  | limitReached (text : String)
  deriving DecidableEq, Repr

namespace StoreError

def message : StoreError → String
  | unavailable text => "store unavailable: " ++ text
  | conflict text => "store conflict: " ++ text
  | corrupt text => "corrupt row: " ++ text
  | missing text => "not found: " ++ text
  | limitReached text => "limit reached: " ++ text

def toAuthError : StoreError → AuthError
  | unavailable text => .transient text
  | conflict text => .conflict text
  | corrupt text => .internal text
  | missing _ => .notFound
  | limitReached _ => .forbidden

end StoreError

end TenantAuth
