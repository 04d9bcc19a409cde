-- Digits: hexadecimal ones, and decimal numerals read and written.

namespace TenantAuth.Text

/-- The lower-case hexadecimal digit of a number below sixteen. -/
def hexDigit (n : Nat) : Char :=
  if n < 10 then Char.ofNat (48 + n) else Char.ofNat (87 + n)

/-- The value of a hexadecimal digit in either case. -/
def hexValue? (c : Char) : Option Nat :=
  let n := c.toNat
  if 48 ≤ n ∧ n ≤ 57 then some (n - 48)
  else if 97 ≤ n ∧ n ≤ 102 then some (n - 87)
  else if 65 ≤ n ∧ n ≤ 70 then some (n - 55)
  else none

theorem hexValue?_hexDigit : ∀ n < 16, hexValue? (hexDigit n) = some n := by decide

/-- Every octet as two hexadecimal digits. -/
def hexOfBytes (bs : List UInt8) : String :=
  String.ofList (bs.flatMap fun b => [hexDigit (b.toNat / 16), hexDigit (b.toNat % 16)])

/-- The octets that pairs of hexadecimal digits write. -/
def bytesOfHex? : List Char → Option (List UInt8)
  | [] => some []
  | [_] => none
  | h :: l :: rest => do
    let x ← hexValue? h
    let y ← hexValue? l
    let tail ← bytesOfHex? rest
    some (UInt8.ofNat (16 * x + y) :: tail)

/-- The value of an ASCII decimal digit. -/
def digitValue? (c : Char) : Option Nat :=
  let n := c.toNat
  if 48 ≤ n ∧ n ≤ 57 then some (n - 48) else none

/-- The number that a row of decimal digits writes. -/
def valueOfDigits (cs : List Char) : Nat :=
  cs.foldl (fun acc c => 10 * acc + (c.toNat - 48)) 0

/-- A number written with at least `width` digits. -/
def padded (width n : Nat) : List Char :=
  let ds := Nat.toDigits 10 n
  List.replicate (width - ds.length) '0' ++ ds

/-! ## Numerals of bounded size -/

/-- Why a numeral is refused. -/
inductive NumeralError where
  | empty
  | invalidDigit
  | tooLarge
  deriving DecidableEq, Repr

def NumeralError.message : NumeralError → String
  | .empty => "cannot parse integer from empty string"
  | .invalidDigit => "invalid digit found in string"
  | .tooLarge => "number too large to fit in target type"

/-- Digits appended to `acc`. Going from the left, the first character that is
no digit or the first step past the limit decides which refusal it is. -/
def readDigits (limit : Nat) : Nat → List Char → Except NumeralError Nat
  | acc, [] => .ok acc
  | acc, c :: cs =>
    match digitValue? c with
    | none => .error .invalidDigit
    | some d => if 10 * acc + d < limit then readDigits limit (10 * acc + d) cs else .error .tooLarge

/-- A numeral below `limit`, with an optional plus sign. -/
def readNumeral (limit : Nat) : List Char → Except NumeralError Nat
  | [] => .error .empty
  | '+' :: cs => if cs.isEmpty then .error .invalidDigit else readDigits limit 0 cs
  | cs => readDigits limit 0 cs

end TenantAuth.Text
