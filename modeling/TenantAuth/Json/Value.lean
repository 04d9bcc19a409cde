-- JSON values, and how they are built from the words of a text. The building
-- keeps its open brackets on a list, so values may be nested to any depth.

import TenantAuth.Json.Token

namespace TenantAuth

/-- A JSON value whose strings are of type `σ`: texts when a value is written,
and spellings when one is read. An object keeps its members
in their order, repeated keys included. -/
inductive Json (σ : Type) where
  | null
  | bool (b : Bool)
  | number (text : List Char)
  | string (text : σ)
  | array (items : List (Json σ))
  | object (members : List (σ × Json σ))
  deriving Repr, Inhabited

namespace Json

/-- A value as it comes out of a text. -/
abbrev Read := Json Spelling

/-- A bracket that is still open, with what it holds so far, newest first. -/
inductive Frame where
  | array (items : List Read)
  | object (members : List (Spelling × Read))
  | member (members : List (Spelling × Read)) (key : Spelling)

/-- What may come next. -/
inductive Expecting where
  | value
  | firstItem
  | firstKey
  | key
  | colon (key : Spelling)
  | separator

/-- The building after one word. -/
inductive Progress where
  | more (stack : List Frame) (expecting : Expecting)
  | finished (value : Read)
  | wrong

/-- A value is complete: it goes into the innermost open bracket. -/
def complete (v : Read) : List Frame → Progress
  | [] => .finished v
  | .array items :: rest => .more (.array (v :: items) :: rest) .separator
  | .member members key :: rest => .more (.object ((key, v) :: members) :: rest) .separator
  | .object _ :: _ => .wrong

/-- A word where a value must begin. -/
def beginValue (stack : List Frame) : Token → Progress
  | .openBrace => .more (.object [] :: stack) .firstKey
  | .openBracket => .more (.array [] :: stack) .firstItem
  | .null => complete .null stack
  | .bool b => complete (.bool b) stack
  | .number text => complete (.number text) stack
  | .string text => complete (.string text) stack
  | _ => .wrong

/-- One word. -/
def advance (stack : List Frame) : Expecting → Token → Progress
  | .value, t => beginValue stack t
  | .firstItem, .closeBracket => complete (.array []) stack.tail
  | .firstItem, t => beginValue stack t
  | .firstKey, .closeBrace => complete (.object []) stack.tail
  | .firstKey, .string key | .key, .string key => .more stack (.colon key)
  | .firstKey, _ | .key, _ => .wrong
  | .colon key, .colon =>
    match stack with
    | .object members :: rest => .more (.member members key :: rest) .value
    | _ => .wrong
  | .colon _, _ => .wrong
  | .separator, .comma =>
    match stack with
    | .array _ :: _ => .more stack .value
    | .object _ :: _ => .more stack .key
    | _ => .wrong
  | .separator, .closeBracket =>
    match stack with
    | .array items :: rest => complete (.array items.reverse) rest
    | _ => .wrong
  | .separator, .closeBrace =>
    match stack with
    | .object members :: rest => complete (.object members.reverse) rest
    | _ => .wrong
  | .separator, _ => .wrong

/-- The first value of a row of words, and the words behind it. -/
def build : List Frame → Expecting → List Token → Option (Read × List Token)
  | _, _, [] => none
  | stack, expecting, t :: rest =>
    match advance stack expecting t with
    | .more stack' expecting' => build stack' expecting' rest
    | .finished v => some (v, rest)
    | .wrong => none

/-- The value at the front of a text; what follows it is not looked at. -/
def parseFirst? (text : List (Option Char)) : Option Read :=
  (build [] .value (lex text)).map (·.1)

/-- The value of a text that holds one value and nothing else. -/
def parse? (text : List (Option Char)) : Option Read :=
  match build [] .value (lex text) with
  | some (v, []) => some v
  | _ => none

/-- The value of a text in hand. -/
def ofString? (s : String) : Option Read := parse? (s.toList.map some)

/-! ## Changing the strings -/

mutual

/-- A value with `f` applied to its strings and keys. -/
def map {σ τ : Type} (f : σ → τ) : Json σ → Json τ
  | .null => .null
  | .bool b => .bool b
  | .number text => .number text
  | .string text => .string (f text)
  | .array items => .array (mapItems f items)
  | .object members => .object (mapMembers f members)

def mapItems {σ τ : Type} (f : σ → τ) : List (Json σ) → List (Json τ)
  | [] => []
  | v :: vs => map f v :: mapItems f vs

def mapMembers {σ τ : Type} (f : σ → τ) : List (σ × Json σ) → List (τ × Json τ)
  | [] => []
  | (k, v) :: ms => (f k, map f v) :: mapMembers f ms

end

mutual

/-- The strings of a value, without its keys. -/
def strings {σ : Type} : Json σ → List σ
  | .string text => [text]
  | .array items => itemStrings items
  | .object members => memberStrings members
  | .null | .bool _ | .number _ => []

def itemStrings {σ : Type} : List (Json σ) → List σ
  | [] => []
  | v :: vs => strings v ++ itemStrings vs

def memberStrings {σ : Type} : List (σ × Json σ) → List σ
  | [] => []
  | (_, v) :: ms => strings v ++ memberStrings ms

end

end Json

end TenantAuth
