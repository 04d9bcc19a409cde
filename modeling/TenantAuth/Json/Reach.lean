-- How far the reading of a value gets that wants a text for every string and
-- a binary fraction of fifty-three bits for every number. What has neither is
-- still JSON; but whoever wants it stops there, and what is read next depends
-- on where that is.

import TenantAuth.Json.Value

namespace TenantAuth.Json

open TenantAuth.Text

/-- Where a reading stands: behind the value and with all of it in hand, behind
the value without it, or somewhere inside. -/
inductive Reach where
  | whole
  | behind
  | stuck
  deriving DecidableEq, Repr

def Spelling.reach : Spelling → Reach
  | .text _ => .whole
  | .broken .atEnd => .behind
  | .broken .inside => .stuck

/-! ## Numbers -/

/-- The nearest number of fifty-three significant bits; a half goes to the even
neighbour. -/
def roundToFraction (n : Nat) : Nat :=
  let spare := n.log2 + 1 - 53
  if spare = 0 then n
  else
    let unit := 1 <<< spare
    let low := n / unit
    let left := 2 * (n % unit)
    (if unit < left ∨ (left = unit ∧ low % 2 = 1) then low + 1 else low) * unit

/-- A number times a power of ten is too large. Both factors are rounded, and
so is their product. -/
def exceeds (significand exponent : Nat) : Bool :=
  if 308 < exponent then significand != 0
  else
    1 <<< 1024 ≤ roundToFraction (roundToFraction significand * roundToFraction (Nat.pow 10 exponent))

/-- Append digits to a number as long as it has no more than sixty-four bits.
The digits from the first one on that does not fit are left. -/
def takeDigits : Nat → List Char → Nat × List Char
  | n, [] => (n, [])
  | n, c :: cs =>
    let m := 10 * n + (c.toNat - 48)
    if m < UInt64.size then takeDigits m cs else (n, c :: cs)

/-- The digits of an exponent, and what is left of them when it gets longer than
thirty-one bits. -/
def takeExponent : Nat → List Char → Nat × Option (List Char)
  | n, [] => (n, none)
  | n, c :: cs =>
    let m := 10 * n + (c.toNat - 48)
    if m < 1 <<< 31 then takeExponent m cs else (n, some cs)

/-- The reading of a number: its digits count as many as fit, digits of the
whole part that do not fit raise the exponent, and the others are passed over.
It stops inside only where an exponent is too long. -/
def numberReach (text : List Char) : Reach :=
  let unsigned := if text.head? = some '-' then text.tail else text
  let whole := unsigned.takeWhile Char.isDigit
  let rest := unsigned.drop whole.length
  let fraction := if rest.head? = some '.' then rest.tail.takeWhile Char.isDigit else []
  let power := (unsigned.dropWhile fun c => c != 'e' && c != 'E').tail
  let lowers := power.head? = some '-'
  let digits := if lowers ∨ power.head? = some '+' then power.tail else power
  let (n, excess) := takeDigits 0 whole
  let (significand, passed) := takeDigits n fraction
  let raised := excess.length
  let lowered := fraction.length - passed.length
  match takeExponent 0 digits with
  | (_, some left) =>
    if lowers ∨ significand = 0 then .whole else if left.isEmpty then .behind else .stuck
  | (exponent, none) =>
    let up := raised + (if lowers then 0 else exponent)
    let down := lowered + (if lowers then exponent else 0)
    if down ≤ up ∧ exceeds significand (up - down) then .behind else .whole

/-! ## Whole values -/

/-- An item decides where the reading of its array or object stands: behind it
only if the item was the last. -/
def Reach.ofItem (isLast : Bool) : Reach → Reach
  | .behind => if isLast then .behind else .stuck
  | r => r

mutual

/-- The reading of a value that is nested less than `depth` deep; brackets that
are deeper stop it. -/
def reach : Nat → Read → Reach
  | _, .null | _, .bool _ => .whole
  | _, .number text => numberReach text
  | _, .string spelling => spelling.reach
  | 0, .array _ | 0, .object _ => .stuck
  | depth + 1, .array items => if depth = 0 then .stuck else reachItems depth items
  | depth + 1, .object members => if depth = 0 then .stuck else reachMembers depth members

/-- The reading of items: the first fault stops it. -/
def reachItems : Nat → List Read → Reach
  | _, [] => .whole
  | depth, v :: vs =>
    match reach depth v with
    | .whole => reachItems depth vs
    | r => r.ofItem vs.isEmpty

/-- The reading of members. A key is never the last thing in an object. -/
def reachMembers : Nat → List (Spelling × Read) → Reach
  | _, [] => .whole
  | depth, (key, v) :: ms =>
    if key.isText then
      match reach depth v with
      | .whole => reachMembers depth ms
      | r => r.ofItem ms.isEmpty
    else .stuck

end

end TenantAuth.Json
