-- The settings of the service, read from named variables.

import TenantAuth.Net.SocketAddress
import TenantAuth.Text.Blank

namespace TenantAuth

open TenantAuth.Text

/-- The settings of the service. Times are in seconds. -/
structure Config where
  bindAddress : SocketAddress
  /-- Keep the data in a database, not in memory. -/
  persistent : Bool
  databaseUrl : Option String
  maxConnections : UInt32
  stateLifetime : UInt64
  sweepInterval : UInt64
  /-- Whoever logs in for the first time gets an organization. -/
  provisionsOwners : Bool
  deriving DecidableEq, Repr

/-- Why the variables give no settings. -/
inductive ConfigError where
  | address
  | databaseRequired
  | notBoolean (key shown : String)
  | notNumber (key : String) (reason : NumeralError)
  | tooLarge (key : String)
  | zero (key : String)
  deriving DecidableEq, Repr

namespace ConfigError

def message : ConfigError → String
  | address => "BIND_ADDR must be a socket address like 0.0.0.0:8080"
  | databaseRequired => "USE_PERSISTENT_STORES=true requires DATABASE_URL"
  | notBoolean key shown => key ++ " must be a boolean, got '" ++ shown ++ "'"
  | notNumber key _ => key ++ " must be a non-negative integer"
  | tooLarge key => key ++ " is too large"
  | zero key => key ++ " must be greater than zero"

/-- What is behind an error, if there is something more to say. -/
def cause? : ConfigError → Option String
  | address => some "invalid socket address syntax"
  | notNumber _ reason => some reason.message
  | tooLarge _ => some NumeralError.tooLarge.message
  | databaseRequired | notBoolean .. | zero _ => none

/-- An error and what is behind it. -/
def chain (e : ConfigError) : List String := e.message :: e.cause?.toList

end ConfigError

namespace Config

/-- The settings that hold where no variable says otherwise. -/
def default : Config where
  bindAddress := .v4 ⟨0, 0, 0, 0⟩ 8080
  persistent := false
  databaseUrl := none
  maxConnections := 10
  stateLifetime := 300
  sweepInterval := 900
  provisionsOwners := false

/-- The values of variables, by name. -/
abbrev Lookup := String → Option String

def readAddress (lookup : Lookup) (key : String) (whenAbsent : SocketAddress) :
    Except ConfigError SocketAddress :=
  match lookup key with
  | none => .ok whenAbsent
  | some text =>
    match SocketAddress.ofText? text with
    | some address => .ok address
    | none => .error .address

/-- The spellings of yes and no; blanks around them and case do not matter. -/
def bool? (spelling : String) : Option Bool :=
  if spelling ∈ ["1", "true", "yes", "on"] then some true
  else if spelling ∈ ["0", "false", "no", "off", ""] then some false
  else none

def readBool (lookup : Lookup) (key : String) (whenAbsent : Bool) : Except ConfigError Bool :=
  match lookup key with
  | none => .ok whenAbsent
  | some text =>
    let spelling := String.ofList ((trimChars text.toList).map Char.toLower)
    match bool? spelling with
    | some b => .ok b
    | none => .error (.notBoolean key spelling)

def readNumber (lookup : Lookup) (key : String) (whenAbsent : Nat) : Except ConfigError Nat :=
  match lookup key with
  | none => .ok whenAbsent
  | some text =>
    match readNumeral UInt64.size (trimChars text.toList) with
    | .ok n => .ok n
    | .error reason => .error (.notNumber key reason)

def readConnections (lookup : Lookup) (key : String) (whenAbsent : UInt32) :
    Except ConfigError UInt32 := do
  let n ← readNumber lookup key whenAbsent.toNat
  if n < UInt32.size then .ok (UInt32.ofNat n) else .error (.tooLarge key)

/-- A number of seconds, at least one. -/
def readSeconds (lookup : Lookup) (key : String) (whenAbsent : UInt64) :
    Except ConfigError UInt64 := do
  let n ← readNumber lookup key whenAbsent.toNat
  if n = 0 then .error (.zero key) else .ok (UInt64.ofNat n)

/-- A blank address of a database is none; any other is kept as it is. -/
def readDatabaseUrl (lookup : Lookup) : Option String :=
  (lookup "DATABASE_URL").filter fun text => !(trimChars text.toList).isEmpty

/-- Read every variable; the first one that is wrong decides the error. -/
def ofLookup (lookup : Lookup) : Except ConfigError Config := do
  let bindAddress ← readAddress lookup "BIND_ADDR" default.bindAddress
  let persistent ← readBool lookup "USE_PERSISTENT_STORES" default.persistent
  let databaseUrl := readDatabaseUrl lookup
  if persistent ∧ databaseUrl.isNone then throw .databaseRequired
  let maxConnections ← readConnections lookup "DB_MAX_CONNECTIONS" default.maxConnections
  let stateLifetime ← readSeconds lookup "OAUTH_STATE_TTL_SECS" default.stateLifetime
  let sweepInterval ← readSeconds lookup "OAUTH_SWEEP_INTERVAL_SECS" default.sweepInterval
  let provisionsOwners ← readBool lookup "AUTO_PROVISION_OWNERS" default.provisionsOwners
  return { bindAddress, persistent, databaseUrl, maxConnections, stateLifetime, sweepInterval,
           provisionsOwners }

end Config

end TenantAuth
