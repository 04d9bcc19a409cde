-- Requests and responses.

import TenantAuth.Http.MediaType
import TenantAuth.Json.Printer
import TenantAuth.Text.Utf8

namespace TenantAuth.Http

open TenantAuth.Text

/-- What is asked for; only the methods in use are told apart. -/
inductive Method where
  | get
  | head
  | post
  | other (name : String)
  deriving DecidableEq, Repr

def Method.ofText (s : String) : Method :=
  if s = "GET" then .get else if s = "HEAD" then .head else if s = "POST" then .post else .other s

/-- Where a request goes: a path, and a query behind it. -/
structure Target where
  path : String
  query : Option String
  deriving DecidableEq, Repr

namespace Target

/-- What stands behind a scheme, if the text names one. -/
def afterScheme? (cs : List Char) : Option (List Char) :=
  match splitFirst? ':' cs with
  | some (_, '/' :: '/' :: rest) => some rest
  | _ => none

/-- A path with its query. A fragment is dropped; a scheme and the host behind
it may stand in front. -/
def ofText (s : String) : Target :=
  let cs := s.toList.takeWhile (· ≠ '#')
  let origin :=
    match cs with
    | '/' :: _ => cs
    | _ =>
      match afterScheme? cs with
      | none => cs
      | some rest =>
        match rest.dropWhile fun c => c ≠ '/' ∧ c ≠ '?' with
        | '/' :: tail => '/' :: tail
        | tail => '/' :: tail
  match splitFirst? '?' origin with
  | some (path, query) => ⟨String.ofList path, some (String.ofList query)⟩
  | none => ⟨String.ofList origin, none⟩

end Target

structure Request where
  method : Method
  target : Target
  /-- Names in lower case, values as octets, in the order they came. -/
  headers : List (String × List UInt8)
  body : List UInt8

namespace Request

/-- The visible characters and the tab, as text. -/
def visibleText? (bs : List UInt8) : Option String :=
  if bs.all fun b => (0x20 ≤ b && b < 0x7F) || b == 9 then
    some (String.ofList (bs.map fun b => Char.ofNat b.toNat))
  else none

/-- The first header of a name, if its value is visible text. -/
def header? (r : Request) (name : String) : Option String :=
  (r.headers.lookup name).bind visibleText?

/-- The most octets of a body that is read. -/
def bodyLimit : Nat := 2097152

/-- The first JSON value of the body, if the body says that it is JSON. -/
def json? (r : Request) : Option Json.Read :=
  match (r.header? "content-type").bind fun text => MediaType.ofChars? text.toList with
  | none => none
  | some m =>
    if m.isJson ∧ r.body.length ≤ bodyLimit then Json.parseFirst? (Utf8.decode r.body) else none

end Request

inductive Body where
  | empty
  | json (value : Json String)
  | text (content : String)
  deriving Repr

structure Response where
  status : Nat
  headers : List (String × String)
  body : Body
  deriving Repr

namespace Response

/-- A status and nothing else. -/
def bare (status : Nat) : Response := ⟨status, [], .empty⟩

def json (status : Nat) (value : Json String) : Response :=
  ⟨status, [("content-type", "application/json")], .json value⟩

def text (status : Nat) (content : String) : Response :=
  ⟨status, [("content-type", "text/plain; charset=utf-8")], .text content⟩

/-- Go to another address with the same method. -/
def redirect (location : String) : Response := ⟨307, [("location", location)], .empty⟩

def withHeader (r : Response) (name value : String) : Response :=
  { r with headers := r.headers ++ [(name, value)] }

/-- The answer to a request that asks for everything but the body. -/
def withoutBody (r : Response) : Response := { r with body := .empty }

end Response

end TenantAuth.Http
