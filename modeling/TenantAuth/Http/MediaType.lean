-- Media types: what a body says it is.

import TenantAuth.Text.Split

namespace TenantAuth.Http

open TenantAuth.Text

/-- A media type without its parameters. The suffix is what stands behind the
last plus sign. -/
structure MediaType where
  top : List Char
  sub : List Char
  suffix : Option (List Char)
  deriving DecidableEq, Repr

namespace MediaType

/-- The characters that names are made of. -/
def isNameChar (c : Char) : Bool :=
  c.isAlphanum || ['!', '#', '$', '%', '&', '\u0027', '*', '+', '-', '.', '^', '_', '\u0060', '|', '~'].contains c

/-! ## Parameters -/

/-- Where in the parameters the reading stands. -/
inductive ParameterState where
  | start
  | name
  | valueStart
  | value
  | quoteStart
  | quote
  | behindQuote
  deriving DecidableEq, Repr

namespace ParameterState

/-- One character of the parameters. -/
def next? (s : ParameterState) (c : Char) : Option ParameterState :=
  match s with
  | start => if c = ' ' then some start else if isNameChar c then some name else none
  | name => if isNameChar c then some name else if c = '=' then some valueStart else none
  | valueStart => if c = '"' then some quoteStart else if isNameChar c then some value else none
  | value => if isNameChar c then some value else if c = ';' then some start else none
  | quoteStart => if ' ' ≤ c ∧ c.toNat ≠ 127 then some quote else none
  | quote =>
    if c = '"' then some behindQuote else if ' ' ≤ c ∧ c.toNat ≠ 127 then some quote else none
  | behindQuote => if c = ';' then some start else if c = ' ' then some behindQuote else none

/-- The parameters may end here. -/
def complete : ParameterState → Bool
  | start | valueStart | value | behindQuote => true
  | name | quoteStart | quote => false

/-- The rest of the parameters is well formed. -/
def accepts (s : ParameterState) : List Char → Bool
  | [] => s.complete
  | c :: cs =>
    match s.next? c with
    | some t => accepts t cs
    | none => false

end ParameterState

/-! ## The whole type -/

/-- A subtype cut at its last plus sign, if that is not its first character. -/
def cutSuffix (cs : List Char) : List Char × Option (List Char) :=
  match splitFirst? '+' cs.reverse with
  | some (suffix, front) =>
    if front.isEmpty then (cs, none) else (front.reverse, some suffix.reverse)
  | none => (cs, none)

def ofChars? (cs : List Char) : Option MediaType :=
  match splitFirst? '/' cs with
  | none => none
  | some (top, rest) =>
    let sub := rest.takeWhile (· ≠ ';')
    let parameters := rest.drop (sub.length + 1)
    let bare := sub.length = rest.length
    if top.isEmpty ∨ !top.all isNameChar ∨ !sub.all isNameChar ∨ (sub.isEmpty ∧ ¬ bare) then none
    else if bare ∨ ParameterState.start.accepts parameters then
      let (sub, suffix) := cutSuffix sub
      some ⟨top, sub, suffix⟩
    else none

/-- The type says that the body is JSON. -/
def isJson (m : MediaType) : Bool :=
  let lower (cs : List Char) := cs.map Char.toLower
  let json := ['j', 's', 'o', 'n']
  lower m.top == ['a', 'p', 'p', 'l', 'i', 'c', 'a', 't', 'i', 'o', 'n']
    && (lower m.sub == json || m.suffix.map lower == some json)

end MediaType

end TenantAuth.Http
