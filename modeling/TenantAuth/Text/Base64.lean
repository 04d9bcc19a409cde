-- Base64 in the two forms that are used here: the standard alphabet with
-- padding, and the alphabet for URLs without padding.

namespace TenantAuth.Text.Base64

/-- The last two of the sixty-four digits; the first sixty-two are the same in
every alphabet. -/
structure Alphabet where
  digit62 : Char
  digit63 : Char

def standard : Alphabet := ⟨'+', '/'⟩

def urlSafe : Alphabet := ⟨'-', '_'⟩

namespace Alphabet

def digit (a : Alphabet) (n : Nat) : Char :=
  if n < 26 then Char.ofNat (65 + n)
  else if n < 52 then Char.ofNat (71 + n)
  else if n < 62 then Char.ofNat (n - 4)
  else if n = 62 then a.digit62
  else a.digit63

def value? (a : Alphabet) (c : Char) : Option Nat :=
  let n := c.toNat
  if 65 ≤ n ∧ n ≤ 90 then some (n - 65)
  else if 97 ≤ n ∧ n ≤ 122 then some (n - 71)
  else if 48 ≤ n ∧ n ≤ 57 then some (n + 4)
  else if c = a.digit62 then some 62
  else if c = a.digit63 then some 63
  else none

/-- Three octets become four digits. A last group of one or two octets becomes
two or three digits, followed by `padding` for each digit left out. -/
def encode (a : Alphabet) (padding : List Char) : List UInt8 → List Char
  | [] => []
  | [x] => [a.digit (x.toNat / 4), a.digit (x.toNat % 4 * 16)] ++ padding ++ padding
  | [x, y] =>
    [a.digit (x.toNat / 4), a.digit (x.toNat % 4 * 16 + y.toNat / 16), a.digit (y.toNat % 16 * 4)]
      ++ padding
  | x :: y :: z :: rest =>
    a.digit (x.toNat / 4) :: a.digit (x.toNat % 4 * 16 + y.toNat / 16)
      :: a.digit (y.toNat % 16 * 4 + z.toNat / 64) :: a.digit (z.toNat % 64)
      :: encode a padding rest

/-- Read digits without padding. The bits that a last short group leaves over
must be zero, so each row of octets has one spelling. -/
def decode? (a : Alphabet) : List Char → Option (List UInt8)
  | [] => some []
  | [_] => none
  | [c, d] => do
    let p ← a.value? c
    let q ← a.value? d
    if q % 16 = 0 then some [UInt8.ofNat (p * 4 + q / 16)] else none
  | [c, d, e] => do
    let p ← a.value? c
    let q ← a.value? d
    let r ← a.value? e
    if r % 4 = 0 then
      some [UInt8.ofNat (p * 4 + q / 16), UInt8.ofNat (q % 16 * 16 + r / 4)]
    else none
  | c :: d :: e :: f :: rest => do
    let p ← a.value? c
    let q ← a.value? d
    let r ← a.value? e
    let s ← a.value? f
    let tail ← decode? a rest
    some (UInt8.ofNat (p * 4 + q / 16) :: UInt8.ofNat (q % 16 * 16 + r / 4)
      :: UInt8.ofNat (r % 4 * 64 + s) :: tail)

end Alphabet

/-- The form for URLs, without padding. -/
def encodeUrl (bs : List UInt8) : String := String.ofList (urlSafe.encode [] bs)

def decodeUrl? (s : String) : Option (List UInt8) := urlSafe.decode? s.toList

/-- The standard form, with padding. -/
def encodeStandard (bs : List UInt8) : String := String.ofList (standard.encode ['='] bs)

end TenantAuth.Text.Base64
