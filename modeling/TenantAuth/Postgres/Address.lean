-- Where a database server is: what the URL of a database says of it.

import TenantAuth.Http.Query
import TenantAuth.Net.Url
import TenantAuth.Postgres.Failure
import TenantAuth.Text.Shown

namespace TenantAuth.Postgres

open TenantAuth.Text

/-- Where a server is. A socket goes before a host. -/
structure Address where
  host : String
  port : UInt16
  /-- The directory of a socket of the file system. -/
  socket : Option String
  deriving DecidableEq, Repr

/-- Why a text does not say where a server is. -/
inductive AddressError where
  | url (e : UrlError)
  | octets (e : Utf8.Fault)
  | encryption (mode : String)
  | number (e : NumeralError)
  | ip
  deriving DecidableEq, Repr

def AddressError.message : AddressError → String
  | url e => e.message
  | octets e => e.message
  | encryption mode =>
    (Failure.settings ("unknown value " ++ shown mode ++ " for `ssl_mode`")).message
  | number e => e.message
  | ip => "invalid IP address syntax"

namespace Address

/-- The server of the machine itself, at the usual port. -/
def default : Address := ⟨"localhost", 5432, none⟩

/-- The ways in which a connection may be encrypted. -/
def encryptionModes : List String :=
  ["disable", "allow", "prefer", "require", "verify-ca", "verify-full"]

def checkOctets (cs : List Char) : Except AddressError String :=
  (Utf8.ofOctets (Percent.decode cs)).mapError .octets

def number (bound : Nat) (value : String) : Except AddressError Nat :=
  (readNumeral bound value.toList).mapError .number

/-- An address of either version and nothing else. -/
def isIp (value : String) : Bool :=
  (SocketAddress.ipv4? value.toList).any (fun r => r.2.isEmpty)
    || (SocketAddress.ipv6? value.toList).any (fun r => r.2.isEmpty)

/-- One parameter of the query. Those that do not matter for finding the server
are only checked, and unknown ones are passed over. -/
def withParameter (a : Address) (name value : String) : Except AddressError Address :=
  match name with
  | "sslmode" | "ssl-mode" =>
    if encryptionModes.contains (value.map Char.toLower) then .ok a else .error (.encryption value)
  | "statement-cache-capacity" => (number UInt64.size value).map fun _ => a
  | "host" =>
    .ok (if value.startsWith "/" then { a with socket := some value } else { a with host := value })
  | "hostaddr" => if isIp value then .ok { a with host := value } else .error .ip
  | "port" => (number UInt16.size value).map fun n => { a with port := UInt16.ofNat n }
  | _ => .ok a

/-- A host that begins with a slash is the directory of a socket. -/
def withHost (a : Address) (host : List Char) : Except AddressError Address :=
  if host.isEmpty then .ok a
  else if (Percent.decode host).head? = some 0x2F then
    (checkOctets host).map fun directory => { a with socket := some directory }
  else .ok { a with host := String.ofList host }

/-- Where the server of a URL is. The parts are looked at in the order host,
user, password, database, parameters. -/
def ofUrl (url : Url) : Except AddressError Address := do
  let a ← default.withHost url.host
  let a := { a with port := url.port.getD a.port }
  let _ ← checkOctets url.user
  let _ ← checkOctets url.password
  let _ ← checkOctets (url.path.dropWhile (· = '/'))
  (Http.Query.fields (String.ofList url.query)).foldlM
    (fun a (name, value) => a.withParameter name value) a

def ofText (s : String) : Except AddressError Address :=
  match Url.ofText s with
  | .ok url => ofUrl url
  | .error e => .error (.url e)

/-! ## Without a network -/

/-- The names under which a machine finds itself, in any case. -/
def ownNames : List String := ["localhost"]

/-- An address of four octets, of which the first ones may be left out. -/
def isIpv4 (host : List Char) : Bool :=
  host.getLast? != some '.' && (Domain.ipv4? (host.map Char.toLower)).isSome

def isIpv6 (host : List Char) : Bool :=
  (SocketAddress.ipv6? host).any (fun r => r.2.isEmpty)

/-- A name that may be asked for: letters, digits, hyphens but not in front, and
low lines, in labels of up to 63. -/
def isName (host : List Char) : Bool :=
  let labels := Domain.parts host
  host.all (fun c => c.isAlphanum || c == '-' || c == '_' || c == '.')
    && host != [] && host.head? != some '-' && host.length < 254
    && (host == ['.'] || labels.all fun l => l != [] && l.length < 64)

/-- The file of the socket in a directory. -/
def socketPath (directory : String) (port : UInt16) : String :=
  directory ++ "/.s.PGSQL." ++ toString port.toNat

/-- What comes of a connection to a socket of which there is no file. -/
def noSocket (path : String) : String :=
  if path.contains (Char.ofNat 0) then "paths must not contain interior null bytes"
  else if 108 ≤ path.utf8ByteSize then "path must be shorter than SUN_LEN"
  else "No such file or directory (os error 2)"

/-- What comes of a connection to a host that there is no way to, with nobody to
ask for the address of a name. -/
def noHost (host : List Char) : String :=
  let lookup := "failed to lookup address information: "
  if host.contains (Char.ofNat 0) then "file name contained an unexpected NUL byte"
  else if isIpv6 host then "Cannot assign requested address (os error 99)"
  else if isIpv4 host ∨ ownNames.contains (String.ofList (host.map Char.toLower)) then
    "Network is unreachable (os error 101)"
  else if isName host then lookup ++ "Temporary failure in name resolution"
  else lookup ++ "Name or service not known"

/-- What comes of a connection on a machine that has no network and no server of
its own. -/
def offline (a : Address) : Failure :=
  let isBracket (c : Char) : Bool := c == '[' || c == ']'
  .link <|
    match a.socket with
    | some directory => noSocket (socketPath directory a.port)
    | none =>
      noHost (((a.host.toList.dropWhile isBracket).reverse.dropWhile isBracket).reverse)

end Address

end TenantAuth.Postgres
