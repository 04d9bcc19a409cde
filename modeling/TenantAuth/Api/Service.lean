-- What the service does for each request that reaches it.

import TenantAuth.Api.Form
import TenantAuth.Api.Gate
import TenantAuth.Http.Query
import TenantAuth.Session.Refresh
import TenantAuth.Token.KeySet

namespace TenantAuth.Api

open TenantAuth.Http

/-- The identity provider that logins go through. -/
structure Provider where
  /-- Where to send somebody who wants to log in with a state. -/
  authorizationUrl : String → String

/-- What the service is set up with. -/
structure Service where
  signer : Signer
  roles : RoleTable
  provider : Option Provider
  /-- How long a login may take, in nanoseconds. -/
  stateLifetime : Nat
  /-- Whoever logs in for the first time gets an organization. -/
  provisionsOwners : Bool

namespace Service

open Handler

/-! ## Health and keys -/

def version : String := "0.1.0"

/-- How long the check of the store may take: five seconds. -/
def healthCheckLimit : Nat := 5 * 1000000000

/-- What the check of the session store says, where it is not well. -/
def checkSessions : Handler (Option String) := do
  match ← ask (.within healthCheckLimit (.sessions .ping)) with
  | none => pure (some "timed out")
  | some (.ok ()) => pure none
  | some (.error e) =>
    ask (.log ⟨.warn, "session store health check failed", [("error", redact e.message)]⟩)
    pure (some "unreachable")

/-- Say whether the service is well. -/
def health : Handler Response := do
  let fault ← checkSessions
  let now ← ask .clock
  let status := Json.string (if fault.isNone then "healthy" else "unhealthy")
  let check :=
    [("name", Json.string "session_store"), ("status", status)]
      ++ fault.toList.map fun text => ("message", Json.string text)
  pure (.json (if fault.isNone then 200 else 503)
    (.object
      [("status", status),
       ("version", .string version),
       ("checks", .array [.object check]),
       ("check_time", .string (Timestamp.ofInstant now).toRfc3339)]))

def keys (s : Service) : Handler Response :=
  pure ((Response.json 200 s.signer.keySet.toJson).withHeader "cache-control"
    "public, max-age=3600")

/-! ## Login, refresh, logout -/

def noProvider : Response :=
  Answer.problem 503 "oauth_unavailable" "no identity provider is configured"

/-- Send somebody to the identity provider, with a new state. -/
def login (s : Service) : Handler Response := do
  match s.provider with
  | none => pure noProvider
  | some provider =>
    let state ← ask .newLoginState
    let now ← ask .clock
    ask (.fileState state s.stateLifetime now)
    pure (.redirect (provider.authorizationUrl state))

/-- Both tokens, as they are given out. -/
def tokensJson (access refresh : String) : Json String :=
  .object
    [("access_token", .string access),
     ("refresh_token", .string refresh),
     ("token_type", .string "Bearer"),
     ("expires_in", Json.ofNat Claims.lifetimeSeconds)]

/-- Go on with an access token for a principal. -/
def withAccessToken (s : Service) (p : Principal) (next : String → Handler Response) :
    Handler Response := do
  let now ← ask .clock
  match s.signer.issue? p now with
  | none => .broken
  | some token => orFail TokenError.toAuthError token next

/-- Give out both tokens, with a new session in place of any other. -/
def beginSession (s : Service) (p : Principal) : Handler Response :=
  s.withAccessToken p fun access => do
    let now ← ask .clock
    let secret ← ask .newSecret
    let id ← ask .newSessionId
    match ← stores (Refresh.create p.id secret id now) with
    | .ok refresh => pure (.json 200 (tokensJson access refresh))
    | .error e =>
      ask (.log ⟨.warn, "failed to create refresh session", [("user_id", p.id.toText)]⟩)
      fail e.toAuthError

/-- The principal of an identity. Somebody unknown is refused, or gets an
organization. -/
def withPrincipal (s : Service) (identity : Identity) (next : Principal → Handler Response) :
    Handler Response := do
  let known ← stores (BackendProgram.directory (.findByEmail identity.email))
  orFail StoreError.toAuthError known fun
    | some p => next p
    | none =>
      if s.provisionsOwners then do
        let new ← ask .newOrganization
        let made ←
          stores (BackendProgram.directory (.provisionOwner identity.email identity.name new))
        orFail StoreError.toAuthError made next
      else fail .unauthenticated

/-- Somebody comes back from the identity provider with a state. The state is
used up before anything else is looked at. -/
def callback (s : Service) (query : Option String) : Handler Response := do
  let fields := Query.fields (query.getD "")
  match Query.duplicate? ["state", "code"] fields with
  | some d => pure (.text 400 d.message)
  | none =>
    match fields.lookup "state" with
    | none => pure (Answer.problem 400 "missing_state" "missing state parameter")
    | some state =>
      let now ← ask .clock
      if ← ask (.consumeState state now) then
        match fields.lookup "code", s.provider with
        | none, _ => pure (Answer.problem 400 "missing_code" "missing code parameter")
        | some _, none => pure noProvider
        | some code, some _ =>
          let identity ← ask (.exchange code)
          orFail id identity fun identity => s.withPrincipal identity s.beginSession
      else pure (Answer.problem 400 "invalid_state" "invalid or expired state")

/-- Exchange a refresh secret for the next one and an access token. -/
def refresh (s : Service) (r : Request) : Handler Response := do
  match r.json?.bind SecretForm.ofJson? with
  | none => pure Answer.invalidRequest
  | some form =>
    let now ← ask .clock
    let next ← ask .newSecret
    let id ← ask .newSessionId
    let rotated ← stores (Refresh.rotate form.secret next id now)
    orFail RefreshError.toAuthError rotated fun (secret, p) =>
      s.withAccessToken p fun access => pure (.json 200 (tokensJson access secret))

/-- Drop the session of a refresh secret, if there is one. -/
def logout (r : Request) : Handler Response := do
  match r.json?.bind SecretForm.ofJson? with
  | none => pure Answer.invalidRequest
  | some form =>
    let revoked ← stores (Refresh.revokeSecret form.secret)
    orFail RefreshError.toAuthError revoked fun _ => pure (.bare 204)

/-! ## Organizations and their members -/

/-- A principal as a member of an organization. -/
def memberJson (p : Principal) : Json String :=
  .object
    [("id", .string p.id.toText),
     ("email", .string p.email),
     ("name", .string p.name),
     ("role", p.role.toJson),
     ("permissions", Json.ofStrings p.overrides.items)]

def invalidField (e : FieldError) : Response := Answer.problem 400 "validation_failed" e.message

/-- Create an organization with an owner. Names are stored without the blanks
around them. -/
def createOrganization (r : Request) : Handler Response := do
  match r.json?.bind OrganizationForm.ofJson? with
  | none => pure Answer.invalidRequest
  | some form =>
    match form.check with
    | .error e => pure (invalidField e)
    | .ok () =>
      let new ← ask .newOrganization
      let created ←
        stores (BackendProgram.directory
          (.createOrganization (Text.trim form.name) form.ownerEmail (Text.trim form.ownerName) new))
      orFail StoreError.toAuthError created fun (organization, owner) =>
        pure (.json 201
          (.object [("organization", organization.toJson), ("owner", memberJson owner)]))

def listMembers (o : OrganizationId) : Handler Response := do
  let members ← stores (BackendProgram.directory (.listByOrganization o))
  orFail StoreError.toAuthError members fun members =>
    pure (.json 200
      (.object
        [("organization_id", .string o.toText), ("users", .array (members.map memberJson))]))

/-- Add a sub-account to an organization. -/
def addMember (o : OrganizationId) (r : Request) : Handler Response := do
  match r.json?.bind MemberForm.ofJson? with
  | none => pure Answer.invalidRequest
  | some form =>
    match form.check with
    | .error e => pure (invalidField e)
    | .ok () =>
      let new ← ask .newUser
      match ← stores (BackendProgram.directory
          (.addUser o form.email (Text.trim form.name) new)) with
      | .ok member => pure (.json 201 (memberJson member))
      | .error (.limitReached _) =>
        pure (Answer.problem 403 "max_sub_accounts" "maximum sub-accounts reached")
      | .error e => fail e.toAuthError

/-- Tell principals who they are and what they may do. -/
def whoami (s : Service) (p : Principal) : Handler Response :=
  pure (.json 200
    (.object
      [("email", .string p.email),
       ("name", .string p.name),
       ("organization_id", .string p.organization.toText),
       ("permissions", .array ((s.roles.permissionsHeld p).map Permission.toJson)),
       ("role", p.role.toJson),
       ("user_id", .string p.id.toText)]))

end Service

end TenantAuth.Api
