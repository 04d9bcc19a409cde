-- Names of hosts, in the form in which they are looked up.

import TenantAuth.Net.SocketAddress
import TenantAuth.Text.Split
import TenantAuth.Text.Utf8

namespace TenantAuth.Domain

open TenantAuth.Text

/-! ## Characters -/

/-- The characters that no name may hold. -/
def isForbidden (c : Char) : Bool :=
  c.toNat ≤ 0x20 || c.toNat = 0x7F
    || ['%', '#', '/', ':', '<', '>', '?', '@', '[', '\\', ']', '^', '|'].contains c

/-- The characters that a name is looked up without: soft hyphens, joiners of
words, and selectors of variants. -/
def isPassedOver (c : Char) : Bool :=
  let n := c.toNat
  n == 0xAD || n == 0x34F || (0x180B ≤ n && n ≤ 0x180F) || n == 0x200B || n == 0x2060
    || n == 0x2064 || (0xFE00 ≤ n && n ≤ 0xFE0F) || n == 0xFEFF || (0xE0100 ≤ n && n ≤ 0xE01EF)

/-- A character as it is looked up: letters in lower case, full-width characters
as those of ordinary width, and every kind of full stop as a point. -/
def folded (c : Char) : Char :=
  let n := c.toNat
  if n = 0x3002 ∨ n = 0xFF61 then '.'
  else if n = 0xA0 ∨ n = 0x3000 then ' '
  else if 0xFF01 ≤ n ∧ n ≤ 0xFF5E then (Char.ofNat (n - 0xFEE0)).toLower
  else c.toLower

/-- Beyond ASCII, a name holds everything but control characters, those that lay
text out, and private ones. -/
def isOfName (c : Char) : Bool :=
  let n := c.toNat
  n < 0x80
    || !((n ≤ 0x9F) || (0x2028 ≤ n && n ≤ 0x202E) || (0x2FF0 ≤ n && n ≤ 0x2FFF)
      || (0xE000 ≤ n && n ≤ 0xF8FF) || (0xFFF0 ≤ n && n ≤ 0xFFFF) || 0xE0000 ≤ n)

/-! ## Labels in the coding for ASCII -/

/-- The weight of a digit: letters before figures. -/
def digit? (c : Char) : Option Nat :=
  let n := c.toNat
  if 97 ≤ n ∧ n ≤ 122 then some (n - 97) else if 48 ≤ n ∧ n ≤ 57 then some (n - 22) else none

/-- How many of the weights of a variable-length number count as its last digit:
fewer for each `k` steps. -/
def threshold (k bias : Nat) : Nat := if k ≤ bias then 1 else min 26 (k - bias)

/-- One number of variable length: what it adds to `i`, and the digits behind. -/
def number? (bias : Nat) : Nat → Nat → Nat → List Char → Option (Nat × List Char)
  | _, _, _, [] => none
  | k, weight, i, c :: cs => do
    let d ← digit? c
    let t := threshold k bias
    let i := i + d * weight
    if d < t then some (i, cs) else number? bias (k + 36) (weight * (36 - t)) i cs

theorem number?_length {bias k weight i : Nat} {cs rest : List Char} {n : Nat}
    (h : number? bias k weight i cs = some (n, rest)) : rest.length < cs.length := by
  induction cs generalizing k weight i with
  | nil => simp [number?] at h
  | cons c cs ih =>
    simp only [number?, Option.bind_eq_bind, Option.bind_eq_some_iff] at h
    obtain ⟨d, _, h⟩ := h
    split at h
    · simp only [Option.some.injEq, Prod.mk.injEq] at h
      simp [← h.2]
    · exact Nat.lt_succ_of_lt (ih h)

/-- Divide until what is left fits; `k` grows with each division. -/
def divisions (delta k : Nat) : Nat × Nat :=
  if 455 < delta then divisions (delta / 35) (k + 36) else (delta, k)
termination_by delta
decreasing_by omega

/-- The bias after a number, so that the next one gets short. -/
def adapted (delta count : Nat) (first : Bool) : Nat :=
  let delta := if first then delta / 700 else delta / 2
  let (delta, k) := divisions (delta + delta / count) 0
  k + 36 * delta / (delta + 38)

/-- The characters that the digits put in between those in `out`. -/
def insertions? (n i bias : Nat) (first : Bool) (out cs : List Char) : Option (List Char) :=
  if cs.isEmpty then some out
  else
    match _h : number? bias 36 1 i cs with
    | none => none
    | some (j, rest) =>
      let count := out.length + 1
      let code := n + j / count
      if code < 0x110000 ∧ ¬ (0xD800 ≤ code ∧ code ≤ 0xDFFF) then
        let place := j % count
        insertions? code (place + 1) (adapted (j - i) count first) false
          (out.take place ++ Char.ofNat code :: out.drop place) rest
      else none
termination_by cs.length
decreasing_by exact number?_length _h

/-- The label that stands behind the mark of the coding: plain characters up to
the last hyphen, then the digits. -/
def decodeLabel? (cs : List Char) : Option (List Char) :=
  let digits := (cs.reverse.takeWhile (· != '-')).reverse
  let plain := cs.take (cs.length - digits.length - 1)
  if digits.isEmpty then none else insertions? 128 0 72 true plain digits

/-- A label is good if it is not coded, or its code is that of a label which
needs it. -/
def isGoodLabel (label : List Char) : Bool :=
  if label.take 4 = ['x', 'n', '-', '-'] then
    match decodeLabel? (label.drop 4) with
    | some cs => cs.all isOfName && cs.any fun c => 0x80 ≤ c.toNat
    | none => false
  else true

/-- The name that octets stand for, unless they are not UTF-8 or hold what no
name may hold. -/
def ofOctets? (bs : List UInt8) : Option (List Char) := do
  let text ← Utf8.decode? bs
  let cs := (text.toList.filter fun c => !isPassedOver c).map folded
  if cs.all (fun c => !isForbidden c && isOfName c) && (splitOn '.' cs).all isGoodLabel then some cs
  else none

/-! ## Numbers for names -/

/-- The last label is a number, so the whole is meant as an address. -/
def numberOfPart? (cs : List Char) : Option (Option Nat) :=
  let value (base : Nat) (ds : List Char) : Option (Option Nat) := do
    let ns ← ds.mapM fun c => (hexValue? c).filter (· < base)
    let n := ns.foldl (fun n d => base * n + d) 0
    some (if n < UInt32.size then some n else none)
  match cs with
  | [] => none
  | '0' :: 'x' :: ds => value 16 ds
  | '0' :: d :: ds => value 8 (d :: ds)
  | ds => value 10 ds

/-- The parts of a name without an empty one at its end. -/
def parts (cs : List Char) : List (List Char) :=
  let ps := splitOn '.' cs
  if ps.getLast? = some [] then ps.dropLast else ps

def endsInNumber (cs : List Char) : Bool :=
  match (parts cs).getLast? with
  | some p => (!p.isEmpty && p.all Char.isDigit) || (numberOfPart? p).isSome
  | none => false

/-- The address that up to four numbers make: each but the last is an octet, and
the last one fills the rest. -/
def ipv4? (cs : List Char) : Option Ipv4 := do
  let ps := parts cs
  if 4 < ps.length then none
  let ns ← ps.mapM fun p => (numberOfPart? p).bind id
  let last ← ns.getLast?
  let front := ns.dropLast
  if front.any (255 < ·) ∨ 1 <<< (8 * (4 - front.length)) ≤ last then none
  let n := front.zipIdx.foldl (fun n (d, i) => n + d <<< (8 * (3 - i))) last
  some ⟨.ofNat (n >>> 24), .ofNat (n >>> 16), .ofNat (n >>> 8), .ofNat n⟩

end TenantAuth.Domain
