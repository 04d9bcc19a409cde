-- RFC 3339 text of written times. Writing is in UTC, with no fraction or one
-- of three, six or nine digits. Reading takes more than it writes: any
-- offset, unpadded numbers, blanks between the parts, and the name UTC.

import TenantAuth.Text.Blank
import TenantAuth.Text.Digit
import TenantAuth.Time.Calendar
import TenantAuth.Time.Timestamp

namespace TenantAuth.Timestamp

open TenantAuth.Text

/-! ## Writing -/

/-- A year has four digits; outside of 0 to 9999 it also has a sign. -/
def yearChars (y : Int) : List Char :=
  if 0 ≤ y ∧ y ≤ 9999 then padded 4 y.toNat
  else (if y < 0 then '-' else '+') :: padded 4 y.natAbs

/-- The fraction with as many groups of three digits as it needs. -/
def fractionChars (nanos : Nat) : List Char :=
  if nanos = 0 then []
  else if nanos % 1000000 = 0 then '.' :: padded 3 (nanos / 1000000)
  else if nanos % 1000 = 0 then '.' :: padded 6 (nanos / 1000)
  else '.' :: padded 9 nanos

def chars (t : Timestamp) : List Char :=
  let date := Date.ofDays (t.second / 86400)
  let inDay := (t.second % 86400).toNat
  let leap := 1000000000 ≤ t.nanos
  let sec := inDay % 60 + (if leap then 1 else 0)
  let nanos := if leap then t.nanos - 1000000000 else t.nanos
  yearChars date.year ++ '-' :: padded 2 date.month ++ '-' :: padded 2 date.day
    ++ 'T' :: padded 2 (inDay / 3600) ++ ':' :: padded 2 (inDay / 60 % 60) ++ ':' :: padded 2 sec
    ++ fractionChars nanos ++ ['Z']

def toRfc3339 (t : Timestamp) : String := String.ofList t.chars

/-! ## Reading -/

/-- One digit at the front of a text, and as many more as follow up to `most`. -/
def digits? (most : Nat) (cs : List Char) : Option (Nat × Nat × List Char) :=
  let ds := (cs.takeWhile Char.isDigit).take most
  if ds.isEmpty then none else some (valueOfDigits ds, ds.length, cs.drop ds.length)

/-- A number of at most two digits in given bounds, behind any blanks. -/
def field? (low high : Nat) (cs : List Char) : Option (Nat × List Char) := do
  let (n, _, rest) ← digits? 2 (trimFront cs)
  if low ≤ n ∧ n ≤ high then some (n, rest) else none

/-- A year of at most four digits, or of any number of digits behind a sign. -/
def year? (cs : List Char) : Option (Int × List Char) :=
  match trimFront cs with
  | '-' :: rest => (digits? rest.length rest).map fun (n, _, r) => (-(n : Int), r)
  | '+' :: rest => (digits? rest.length rest).map fun (n, _, r) => ((n : Int), r)
  | rest => (digits? 4 rest).map fun (n, _, r) => ((n : Int), r)

/-- A separator, with blanks in front of it. -/
def mark? (c : Char) (cs : List Char) : Option (List Char) :=
  match trimFront cs with
  | d :: rest => if d = c then some rest else none
  | [] => none

/-- The nanoseconds of a fraction, if there is one. Digits past the ninth count
for nothing. -/
def fraction? : List Char → Option (Nat × List Char)
  | '.' :: cs => do
    let (n, width, rest) ← digits? 9 cs
    some (n * Nat.pow 10 (9 - width), rest.dropWhile Char.isDigit)
  | cs => some (0, cs)

/-- Two digits at the front of a text. -/
def pair? : List Char → Option (Nat × List Char)
  | c :: d :: rest => do
    let a ← digitValue? c
    let b ← digitValue? d
    some (10 * a + b, rest)
  | _ => none

/-- Seconds east of Greenwich: hours and minutes behind a sign, with any colons
and blanks between them; a whole day or more is no offset. -/
def signedOffset? (negative : Bool) (cs : List Char) : Option (Int × List Char) := do
  let (hours, rest) ← pair? cs
  let (minutes, rest) ← pair? (rest.dropWhile fun c => c = ':' || isBlank c)
  if minutes < 60 ∧ hours < 24 then
    let s : Int := hours * 3600 + minutes * 60
    some (if negative then -s else s, rest)
  else none

/-- The offset at the end of a time. -/
def offset? (cs : List Char) : Option (Int × List Char) :=
  if (cs.take 3).map Char.toUpper = ['U', 'T', 'C'] then some (0, cs.drop 3)
  else
    match cs with
    | 'Z' :: rest | 'z' :: rest => some (0, rest)
    | '+' :: rest => signedOffset? false rest
    | '-' :: rest | '\u2212' :: rest => signedOffset? true rest
    | _ => none

/-- The date and the time of day stand apart by one `T` or one space. -/
def dateTimeMark? : List Char → Option (List Char)
  | 'T' :: rest | 't' :: rest | ' ' :: rest => some rest
  | _ => none

/-- The first and the last day of the calendar, as local dates. -/
def firstDay : Int := -96465292
def lastDay : Int := 95026236

/-- Read a written time. -/
def ofChars? (cs : List Char) : Option Timestamp := do
  let (year, cs) ← year? cs
  let cs ← mark? '-' cs
  let (month, cs) ← field? 1 12 cs
  let cs ← mark? '-' cs
  let (day, cs) ← field? 1 31 cs
  let cs ← dateTimeMark? cs
  let (hour, cs) ← field? 0 23 cs
  let cs ← mark? ':' cs
  let (minute, cs) ← field? 0 59 cs
  let cs ← mark? ':' cs
  let (second, cs) ← field? 0 60 cs
  let (nanos, cs) ← fraction? cs
  let (offset, cs) ← offset? (trimFront cs)
  if (trimFront cs).isEmpty = false then none
  let date : Date := ⟨year, month, day⟩
  if ¬ date.Exists then none
  let days := date.toDays
  if days < firstDay ∨ lastDay < days then none
  let leap := second = 60
  let inDay : Int := hour * 3600 + minute * 60 + (if leap then 59 else second)
  ofParts? (days * 86400 + inDay - offset) (if leap then nanos + 1000000000 else nanos)

def ofRfc3339? (s : String) : Option Timestamp := ofChars? s.toList

end TenantAuth.Timestamp
