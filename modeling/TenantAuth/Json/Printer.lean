-- Compact JSON text of a value: no blanks, members in the order they stand.

import TenantAuth.Json.Value

namespace TenantAuth.Json

open TenantAuth.Text

/-- A character inside a string. Quotes, backslashes and control characters are
escaped, all others stand for themselves. -/
def escapeChar (c : Char) : List Char :=
  if c = '"' then ['\\', '"']
  else if c = '\\' then ['\\', '\\']
  else if c = '\n' then ['\\', 'n']
  else if c = '\r' then ['\\', 'r']
  else if c = '\t' then ['\\', 't']
  else if c.toNat = 8 then ['\\', 'b']
  else if c.toNat = 12 then ['\\', 'f']
  else if c.toNat < 0x20 then
    ['\\', 'u', '0', '0', hexDigit (c.toNat / 16), hexDigit (c.toNat % 16)]
  else [c]

def quote (s : String) : List Char := '"' :: (s.toList.flatMap escapeChar ++ ['"'])

mutual

/-- The text of a value. -/
def chars : Json String → List Char
  | .null => ['n', 'u', 'l', 'l']
  | .bool true => ['t', 'r', 'u', 'e']
  | .bool false => ['f', 'a', 'l', 's', 'e']
  | .number text => text
  | .string text => quote text
  | .array [] => ['[', ']']
  | .array (v :: vs) => '[' :: (chars v ++ itemChars vs)
  | .object [] => ['\x7b', '\x7d']
  | .object ((k, v) :: ms) => '\x7b' :: (quote k ++ ':' :: (chars v ++ memberChars ms))

/-- The items behind the first one, up to the closing bracket. -/
def itemChars : List (Json String) → List Char
  | [] => [']']
  | v :: vs => ',' :: (chars v ++ itemChars vs)

/-- The members behind the first one, up to the closing brace. -/
def memberChars : List (String × Json String) → List Char
  | [] => ['\x7d']
  | (k, v) :: ms => ',' :: (quote k ++ ':' :: (chars v ++ memberChars ms))

end

def render (v : Json String) : String := String.ofList (chars v)

/-! ## Values that are written -/

def ofNat (n : Nat) : Json String := .number (Nat.toDigits 10 n)

def ofInt : Int → Json String
  | .ofNat n => ofNat n
  | .negSucc n => .number ('-' :: Nat.toDigits 10 (n + 1))

def ofStrings (ss : List String) : Json String := .array (ss.map .string)

end TenantAuth.Json
