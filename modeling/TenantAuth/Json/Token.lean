-- The words of a JSON text. The text comes as characters in which broken
-- octets stand as `none`: a string that holds one is still a string, only
-- it spells no text.

import TenantAuth.Text.Digit

namespace TenantAuth.Json

open TenantAuth.Text

/-- Where a reader notices that a string spells no text: at its end, once it has
passed the closing quote, or at an escape inside. -/
inductive SpellingFault where
  | atEnd
  | inside
  deriving DecidableEq, Repr

/-- What a string spells: a text, unless it holds broken octets or half of a
surrogate pair. -/
inductive Spelling where
  | text (s : String)
  | broken (fault : SpellingFault)
  deriving DecidableEq, Repr

namespace Spelling

def text? : Spelling → Option String
  | text s => some s
  | broken _ => none

def isText (s : Spelling) : Bool := s.text?.isSome

/-- A spelling with `f` applied to its text. -/
def map (f : String → String) : Spelling → Spelling
  | text s => text (f s)
  | broken fault => broken fault

end Spelling

/-- One word of a JSON text. -/
inductive Token where
  | openBrace
  | closeBrace
  | openBracket
  | closeBracket
  | comma
  | colon
  | null
  | bool (b : Bool)
  | number (text : List Char)
  | string (spelling : Spelling)
  | invalid
  deriving DecidableEq, Repr

/-! ## Numbers -/

/-- How far into a number its characters reach. -/
inductive NumberState where
  | minus
  | zero
  | integer
  | point
  | fraction
  | exponent
  | exponentSign
  | exponentDigits
  deriving DecidableEq, Repr

namespace NumberState

/-- The state after the first character of a number. -/
def first? (c : Char) : Option NumberState :=
  if c = '-' then some minus
  else if c = '0' then some zero
  else if c.isDigit then some integer
  else none

/-- The state after one more character, if the number goes on with it. -/
def next? (s : NumberState) (c : Char) : Option NumberState :=
  match s with
  | minus => if c = '0' then some zero else if c.isDigit then some integer else none
  | zero => if c = '.' then some point else if c = 'e' ∨ c = 'E' then some exponent else none
  | integer =>
    if c.isDigit then some integer
    else if c = '.' then some point
    else if c = 'e' ∨ c = 'E' then some exponent
    else none
  | point => if c.isDigit then some fraction else none
  | fraction =>
    if c.isDigit then some fraction else if c = 'e' ∨ c = 'E' then some exponent else none
  | exponent =>
    if c.isDigit then some exponentDigits
    else if c = '+' ∨ c = '-' then some exponentSign
    else none
  | exponentSign => if c.isDigit then some exponentDigits else none
  | exponentDigits => if c.isDigit then some exponentDigits else none

/-- A number may end here. -/
def complete : NumberState → Bool
  | zero | integer | fraction | exponentDigits => true
  | minus | point | exponent | exponentSign => false

end NumberState

/-! ## Strings -/

/-- The string read so far: its characters, newest first, or a fault; and the
first half of a surrogate pair that waits for the second. -/
structure Quoted where
  text : Except SpellingFault (List Char)
  half : Option Nat

namespace Quoted

def empty : Quoted := ⟨.ok [], none⟩

/-- A bad escape is noticed at once, and nothing later counts. -/
def brokenInside : Quoted := ⟨.error .inside, none⟩

/-- One more character, or a broken octet, which is noticed at the end. Either
breaks a pair that was waiting for its second half. -/
def push (q : Quoted) (c : Option Char) : Quoted :=
  match q.half, c, q.text with
  | some _, _, _ => brokenInside
  | none, some c, .ok cs => ⟨.ok (c :: cs), none⟩
  | none, none, .ok _ => ⟨.error .atEnd, none⟩
  | none, _, .error fault => ⟨.error fault, none⟩

/-- One more unit given by its number: a character, or half of a pair. -/
def pushUnit (q : Quoted) (u : Nat) : Quoted :=
  if 0xD800 ≤ u ∧ u ≤ 0xDBFF then
    match q.half with
    | none => ⟨q.text, some u⟩
    | some _ => brokenInside
  else if 0xDC00 ≤ u ∧ u ≤ 0xDFFF then
    match q.half with
    | some h =>
      ⟨q.text.map (Char.ofNat (0x10000 + (h - 0xD800) * 0x400 + (u - 0xDC00)) :: ·), none⟩
    | none => brokenInside
  else q.push (some (Char.ofNat u))

/-- What the string spells once it is closed. A half that still waits takes the
closing quote for what should follow it. -/
def close (q : Quoted) : Spelling :=
  match q.text, q.half with
  | .ok cs, none => .text (String.ofList cs.reverse)
  | .error fault, _ => .broken fault
  | .ok _, some _ => .broken .atEnd

end Quoted

/-- Where inside a string the reading stands. -/
inductive QuotedState where
  | plain
  | escape
  | unit (left : Nat) (value : Nat)

/-- The character that a one-letter escape stands for. -/
def escaped? (c : Char) : Option Char :=
  if c = '"' ∨ c = '\\' ∨ c = '/' then some c
  else if c = 'b' then some (Char.ofNat 8)
  else if c = 'f' then some (Char.ofNat 12)
  else if c = 'n' then some '\n'
  else if c = 'r' then some '\r'
  else if c = 't' then some '\t'
  else none

/-! ## Reading words -/

/-- What the reading is in the middle of. -/
inductive Mode where
  | between
  | word (rest : List Char) (token : Token)
  | number (seen : List Char) (state : NumberState)
  | quoted (q : Quoted) (state : QuotedState)

/-- The reading after one character: the words it completes, and how the
reading goes on, or nothing if no JSON text has this character here. -/
structure Step where
  tokens : List Token
  mode : Option Mode

/-- A character that begins a word, or stands between two. -/
def stepBetween (c : Char) : Step :=
  if c = ' ' ∨ c = '\n' ∨ c = '\t' ∨ c = '\r' then ⟨[], some .between⟩
  else if c = '\x7b' then ⟨[.openBrace], some .between⟩
  else if c = '\x7d' then ⟨[.closeBrace], some .between⟩
  else if c = '[' then ⟨[.openBracket], some .between⟩
  else if c = ']' then ⟨[.closeBracket], some .between⟩
  else if c = ',' then ⟨[.comma], some .between⟩
  else if c = ':' then ⟨[.colon], some .between⟩
  else if c = '"' then ⟨[], some (.quoted .empty .plain)⟩
  else if c = 'n' then ⟨[], some (.word ['u', 'l', 'l'] .null)⟩
  else if c = 't' then ⟨[], some (.word ['r', 'u', 'e'] (.bool true))⟩
  else if c = 'f' then ⟨[], some (.word ['a', 'l', 's', 'e'] (.bool false))⟩
  else
    match NumberState.first? c with
    | some s => ⟨[], some (.number [c] s)⟩
    | none => ⟨[], none⟩

/-- A character inside a string. Control characters must be escaped. -/
def stepQuoted (q : Quoted) : QuotedState → Option Char → Step
  | .plain, none => ⟨[], some (.quoted (q.push none) .plain)⟩
  | .plain, some c =>
    if c = '"' then ⟨[.string q.close], some .between⟩
    else if c = '\\' then ⟨[], some (.quoted q .escape)⟩
    else if c.toNat < 0x20 then ⟨[], none⟩
    else ⟨[], some (.quoted (q.push (some c)) .plain)⟩
  | .escape, none => ⟨[], none⟩
  | .escape, some c =>
    if c = 'u' then ⟨[], some (.quoted q (.unit 3 0))⟩
    else
      match escaped? c with
      | some e => ⟨[], some (.quoted (q.push (some e)) .plain)⟩
      | none => ⟨[], none⟩
  | .unit left value, c =>
    match c.bind hexValue? with
    | none => ⟨[], none⟩
    | some d =>
      match left with
      | 0 => ⟨[], some (.quoted (q.pushUnit (16 * value + d)) .plain)⟩
      | n + 1 => ⟨[], some (.quoted q (.unit n (16 * value + d)))⟩

/-- One character. A number ends at the first character that it cannot go on
with, and that character is read afresh. -/
def step : Mode → Option Char → Step
  | .between, some c => stepBetween c
  | .between, none => ⟨[], none⟩
  | .word (w :: rest) token, some c =>
    if c = w then
      if rest.isEmpty then ⟨[token], some .between⟩ else ⟨[], some (.word rest token)⟩
    else ⟨[], none⟩
  | .word _ _, _ => ⟨[], none⟩
  | .number seen state, c =>
    match c.bind state.next? with
    | some s => ⟨[], some (.number (c.toList ++ seen) s)⟩
    | none =>
      if state.complete then
        let after := (c.map stepBetween).getD ⟨[], none⟩
        ⟨after.tokens ++ [.number seen.reverse], after.mode⟩
      else ⟨[], none⟩
  | .quoted q state, c => stepQuoted q state c

/-- The words of the rest of a text. `out` holds the words before, newest
first. Where the text cannot go on, the word `invalid` ends the list. -/
def lexFrom : Mode → List Token → List (Option Char) → List Token
  | .between, out, [] => out.reverse
  | .number seen state, out, [] =>
    (if state.complete then Token.number seen.reverse :: out else .invalid :: out).reverse
  | _, out, [] => (.invalid :: out).reverse
  | mode, out, c :: rest =>
    let s := step mode c
    match s.mode with
    | some next => lexFrom next (s.tokens ++ out) rest
    | none => (.invalid :: (s.tokens ++ out)).reverse

/-- The words of a text. -/
def lex (text : List (Option Char)) : List Token := lexFrom .between [] text

end TenantAuth.Json
