-- URLs: what their text has to look like, and the parts of it.

import TenantAuth.Net.Domain
import TenantAuth.Text.Percent

namespace TenantAuth

open TenantAuth.Text

/-- Why a text is no URL. -/
inductive UrlError where
  | relative
  | noHost
  | invalidPort
  | invalidIpv4
  | invalidIpv6
  | invalidHost
  | invalidDomain
  deriving DecidableEq, Repr

def UrlError.message : UrlError → String
  | relative => "relative URL without a base"
  | noHost => "empty host"
  | invalidPort => "invalid port number"
  | invalidIpv4 => "invalid IPv4 address"
  | invalidIpv6 => "invalid IPv6 address"
  | invalidHost => "invalid domain character"
  | invalidDomain => "invalid international domain name"

/-- The parts of a URL. Only a host whose form the scheme lays down is in another
form than that in which it was written. -/
structure Url where
  user : List Char
  password : List Char
  /-- Empty if there is none. -/
  host : List Char
  port : Option UInt16
  path : List Char
  query : List Char
  deriving DecidableEq, Repr

namespace Url

/-! ## Schemes -/

/-- What a scheme lays down: that there is a host with a name or an address, that
there may be one, or nothing. -/
inductive SchemeKind where
  | web
  | file
  | other
  deriving DecidableEq, Repr

def SchemeKind.ofName (name : List Char) : SchemeKind :=
  let name := String.ofList (name.map Char.toLower)
  if ["http", "https", "ws", "wss", "ftp"].contains name then web
  else if name = "file" then file
  else other

/-- The characters that count: no line ends and tabs, and neither control
characters nor spaces at both ends. -/
def significant (cs : List Char) : List Char :=
  let front := cs.dropWhile fun c => c.toNat ≤ 0x20
  let inner := (front.reverse.dropWhile fun c => c.toNat ≤ 0x20).reverse
  inner.filter fun c => c != '\t' && c != '\n' && c != '\r'

/-- The scheme, and what stands behind it: a letter, then letters, digits and the
signs `+`, `-` and `.` up to a colon. -/
def cutScheme? (cs : List Char) : Option (SchemeKind × List Char) := do
  let (scheme, rest) ← splitFirst? ':' cs
  let first ← scheme.head?
  let inScheme (c : Char) : Bool := c.isAlphanum || c == '+' || c == '-' || c == '.'
  if first.isAlpha && scheme.all inScheme then some (.ofName scheme, rest) else none

/-- What separates the parts of a path. -/
def isSlash (kind : SchemeKind) (c : Char) : Bool := c == '/' || (c == '\\' && kind != .other)

/-- What ends the part of a URL that names the host. -/
def endsHost (kind : SchemeKind) (c : Char) : Bool := isSlash kind c || c == '?' || c == '#'

/-! ## Hosts and ports -/

/-- A user and a password in front of a host: they end at the last `@`. The flag
tells that there is one of them. Nothing in front of that sign is no user, but
then there must be something behind it. -/
def cutUser (kind : SchemeKind) (cs : List Char) :
    Except UrlError (List Char × List Char × Bool × List Char) :=
  let front := cs.takeWhile fun c => !endsHost kind c
  let behind := (front.reverse.takeWhile (· != '@')).reverse
  if behind.length = front.length then .ok ([], [], false, cs)
  else
    let info := front.take (front.length - behind.length - 1)
    let rest := cs.drop (info.length + 1)
    if info.isEmpty then
      if rest.head?.any (endsHost kind) then .error .noHost else .ok ([], [], false, rest)
    else
      match splitFirst? ':' info with
      | some (user, password) => .ok (user, password, info != [':'], rest)
      | none => .ok (info, [], true, rest)

/-- A host, up to the colon of a port or the end of the part; brackets keep
colons in. -/
def cutHost (kind : SchemeKind) (inside : Bool) : List Char → List Char × List Char
  | [] => ([], [])
  | c :: cs =>
    if endsHost kind c ∨ (c = ':' ∧ !inside) then ([], c :: cs)
    else
      let inside := if c = '[' then true else if c = ']' then false else inside
      let (host, rest) := cutHost kind inside cs
      (c :: host, rest)

/-- An address of the longer kind, in brackets. -/
def bracketed? (cs : List Char) : Bool :=
  match cs.getLast?, SocketAddress.ipv6? (cs.drop 1).dropLast with
  | some ']', some (_, []) => 1 < cs.length
  | _, _ => false

def isHostCharacter (c : Char) : Bool :=
  !(['\x00', ' ', '#', '/', ':', '<', '>', '?', '@', '[', '\\', ']', '^', '|'].contains c)

/-- A host of which the scheme says nothing. -/
def plainHost (cs : List Char) : Except UrlError (List Char) :=
  if cs.head? = some '[' then if bracketed? cs then .ok cs else .error .invalidIpv6
  else if cs.all isHostCharacter then .ok cs
  else .error .invalidHost

/-- A host that is a name or an address. -/
def domainHost (cs : List Char) : Except UrlError (List Char) :=
  if cs.head? = some '[' then if bracketed? cs then .ok cs else .error .invalidIpv6
  else
    match Domain.ofOctets? (Percent.decode cs) with
    | none => .error .invalidDomain
    | some [] => .error .noHost
    | some name =>
      if Domain.endsInNumber name then
        match Domain.ipv4? name with
        | some ip => .ok ip.toText.toList
        | none => .error .invalidIpv4
      else .ok name

/-- A port behind a colon: digits, or nothing, up to the end of the part. -/
def cutPort : List Char → Except UrlError (Option UInt16 × List Char)
  | ':' :: cs =>
    let digits := cs.takeWhile Char.isDigit
    let rest := cs.drop digits.length
    let ends := rest.head?.all fun c => c == '/' || c == '\\' || c == '?' || c == '#'
    if valueOfDigits digits < UInt16.size ∧ ends then
      .ok (if digits.isEmpty then none else some (UInt16.ofNat (valueOfDigits digits)), rest)
    else .error .invalidPort
  | cs => .ok (none, cs)

/-! ## Paths -/

/-- Ways to write one or two points in a path. -/
def isPoint (segment : List Char) : Bool :=
  [".", "%2e"].contains (String.ofList (segment.map Char.toLower))

def isTwoPoints (segment : List Char) : Bool :=
  ["..", ".%2e", "%2e.", "%2e%2e"].contains (String.ofList (segment.map Char.toLower))

/-- The letter of a drive, which a path does not lead out of. -/
def isDrive (segment : List Char) : Bool :=
  match segment with
  | [letter, mark] => letter.isAlpha && (mark == ':' || mark == '|')
  | _ => false

/-- What is left of a path that goes up from its last segment. -/
def goUp (up : List (List Char)) : List (List Char) :=
  if up.head?.any isDrive then up else up.tail

/-- The segments of a path in which one point goes nowhere and two go up. What
was gone through stands in `up`, the last one first. -/
def walk (up : List (List Char)) : List (List Char) → List (List Char)
  | [] => up.reverse
  | s :: rest =>
    if isTwoPoints s then walk (if rest.isEmpty then [] :: goUp up else goUp up) rest
    else if isPoint s then walk (if rest.isEmpty then [] :: up else up) rest
    else walk (s :: up) rest

/-- The segments of a path behind a host, however the separators are written. -/
def segments (kind : SchemeKind) (cs : List Char) : List (List Char) :=
  let cs := cs.map fun c => if isSlash kind c then '/' else c
  splitOn '/' (if cs.head? = some '/' then cs.tail else cs)

/-- Segments in one text. -/
def pathOf (segments : List (List Char)) : List Char :=
  (walk [] segments).flatMap ('/' :: ·)

/-- A path behind a host, in which every separator is written the same way. -/
def hierarchicalPath (kind : SchemeKind) (cs : List Char) : List Char :=
  if cs.isEmpty ∧ kind = .other then [] else pathOf (segments kind cs)

/-- A path and the query behind it; a fragment is left out. -/
def cutPath (cs : List Char) : List Char × List Char :=
  let cs := cs.takeWhile (· != '#')
  let path := cs.takeWhile (· != '?')
  (path, cs.drop (path.length + 1))

/-! ## Whole URLs -/

/-- The part behind the two slashes. Only a host that nothing goes with may be
empty, and only where the scheme does not ask for one. -/
def withHost (kind : SchemeKind) (cs : List Char) : Except UrlError Url := do
  let (user, password, named, rest) ← cutUser kind cs
  let (written, rest) := cutHost kind false rest
  let host ←
    if kind = .other then plainHost written
    else if written.isEmpty then .error .noHost
    else domainHost written
  if host.isEmpty ∧ rest.head? = some ':' then throw .noHost
  let (port, rest) ← cutPort rest
  if host.isEmpty ∧ named then throw .noHost
  let (path, query) := cutPath rest
  return ⟨user, password, host, port, hierarchicalPath kind path, query⟩

/-- A URL without a host. -/
def withoutHost (path query : List Char) : Url := ⟨[], [], [], none, path, query⟩

/-- The URL of a file on a host, which is the machine itself if it is empty. A
drive at the front of the path is always one of the machine itself. -/
def onHost (host cs : List Char) : Url :=
  let (path, query) := cutPath cs
  match segments .file path with
  | [] => withoutHost [] query
  | first :: rest =>
    if isDrive first then withoutHost (pathOf ((first.take 1 ++ [':']) :: rest)) query
    else { withoutHost (pathOf (first :: rest)) query with host := host }

/-- The URL of a file. Two slashes have a host behind them, unless that is empty
or a drive. -/
def ofFile (cs : List Char) : Except UrlError Url :=
  match cs with
  | a :: b :: rest =>
    let host := rest.takeWhile fun c => !endsHost .file c
    if !isSlash .file a || !isSlash .file b then .ok (onHost [] cs)
    else if host.isEmpty || isDrive host then .ok (onHost [] rest)
    else (domainHost host).map fun name =>
      onHost (if name = "localhost".toList then [] else name) (rest.drop host.length)
  | cs => .ok (onHost [] cs)

/-- The URL that a text is. -/
def ofText (s : String) : Except UrlError Url :=
  match cutScheme? (significant s.toList) with
  | none => .error .relative
  | some (.web, rest) => withHost .web (rest.dropWhile (isSlash .web))
  | some (.file, rest) => ofFile rest
  | some (.other, '/' :: '/' :: rest) => withHost .other rest
  | some (.other, rest) =>
    let (path, query) := cutPath rest
    .ok (withoutHost (if path.head? = some '/' then hierarchicalPath .other path else path) query)

end Url

end TenantAuth
