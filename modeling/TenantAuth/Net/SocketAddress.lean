-- Addresses that a service listens on: an internet address of either version
-- and a port. Reading takes the forms of the addressing standards, writing
-- gives one canonical form.

import TenantAuth.Text.Digit

namespace TenantAuth

open TenantAuth.Text

/-- An address of four octets. -/
structure Ipv4 where
  a : UInt8
  b : UInt8
  c : UInt8
  d : UInt8
  deriving DecidableEq, Repr

/-- An address of eight groups of sixteen bits. -/
structure Ipv6 where
  groups : List UInt16
  eight : groups.length = 8
  deriving DecidableEq, Repr

/-- An address and a port; one of the longer kind may name a zone. -/
inductive SocketAddress where
  | v4 (ip : Ipv4) (port : UInt16)
  | v6 (ip : Ipv6) (zone : UInt32) (port : UInt16)
  deriving DecidableEq, Repr

/-! ## Reading -/

/-- Two groups from four octets. -/
def Ipv4.groups (ip : Ipv4) : List UInt16 :=
  [ip.a.toUInt16 * 256 + ip.b.toUInt16, ip.c.toUInt16 * 256 + ip.d.toUInt16]

namespace SocketAddress

/-- A number in decimal digits, of any number of them, below a bound. -/
def decimal? (bound : Nat) (cs : List Char) : Option (Nat × List Char) :=
  let ds := cs.takeWhile Char.isDigit
  let n := valueOfDigits ds
  if ds.isEmpty ∨ bound ≤ n then none else some (n, cs.drop ds.length)

/-- One of the four numbers of an address: at most three digits, none of them
a zero in front of others. -/
def octet? (cs : List Char) : Option (UInt8 × List Char) := do
  let ds := cs.takeWhile Char.isDigit
  if 3 < ds.length ∨ (ds.head? = some '0' ∧ 1 < ds.length) then none
  let (n, rest) ← decimal? 256 cs
  some (UInt8.ofNat n, rest)

/-- One of the eight groups of an address: one to four hexadecimal digits. -/
def group? (cs : List Char) : Option (UInt16 × List Char) :=
  let ds := cs.takeWhile fun c => (hexValue? c).isSome
  if ds.isEmpty ∨ 4 < ds.length then none
  else some (UInt16.ofNat (ds.foldl (fun n c => 16 * n + (hexValue? c).getD 0) 0), cs.drop ds.length)

def mark? (c : Char) : List Char → Option (List Char)
  | d :: cs => if d = c then some cs else none
  | [] => none

def ipv4? (cs : List Char) : Option (Ipv4 × List Char) := do
  let (a, cs) ← octet? cs
  let (b, cs) ← octet? (← mark? '.' cs)
  let (c, cs) ← octet? (← mark? '.' cs)
  let (d, cs) ← octet? (← mark? '.' cs)
  some (⟨a, b, c, d⟩, cs)

/-- Groups with colons between them, as many as follow up to a bound. The last
two may be written as a shorter address; the flag tells if they are. -/
def groups (first : Bool) : Nat → List Char → List UInt16 × Bool × List Char
  | 0, cs => ([], false, cs)
  | room + 1, cs =>
    match if first then some cs else mark? ':' cs with
    | none => ([], false, cs)
    | some inner =>
      match if room = 0 then none else ipv4? inner with
      | some (ip, rest) => (ip.groups, true, rest)
      | none =>
        match group? inner with
        | none => ([], false, cs)
        | some (g, rest) =>
          let (gs, short, rest) := groups false room rest
          (g :: gs, short, rest)

/-- Eight groups, or fewer with a double colon in place of the zeros between
them. A shorter address may only end it. -/
def ipv6? (cs : List Char) : Option (Ipv6 × List Char) := do
  let (head, short, rest) := groups true 8 cs
  if h : head.length = 8 then some (⟨head, h⟩, rest)
  else if short then none
  else
    let rest ← mark? ':' (← mark? ':' rest)
    let (tail, _, rest) := groups true (7 - head.length) rest
    let all := head ++ List.replicate (8 - head.length - tail.length) 0 ++ tail
    if h : all.length = 8 then some (⟨all, h⟩, rest) else none

/-- A colon and a port. -/
def port? (cs : List Char) : Option (UInt16 × List Char) := do
  let (n, rest) ← decimal? UInt16.size (← mark? ':' cs)
  some (UInt16.ofNat n, rest)

/-- A percent sign and the number of a zone; zone zero goes without saying. -/
def zone (cs : List Char) : UInt32 × List Char :=
  match (mark? '%' cs).bind (decimal? UInt32.size) with
  | some (n, rest) => (UInt32.ofNat n, rest)
  | none => (0, cs)

def v4? (cs : List Char) : Option (SocketAddress × List Char) := do
  let (ip, cs) ← ipv4? cs
  let (port, cs) ← port? cs
  some (.v4 ip port, cs)

def v6? (cs : List Char) : Option (SocketAddress × List Char) := do
  let (ip, cs) ← ipv6? (← mark? '[' cs)
  let (zone, cs) := zone cs
  let (port, cs) ← port? (← mark? ']' cs)
  some (.v6 ip zone port, cs)

def ofText? (s : String) : Option SocketAddress :=
  match (v4? s.toList).orElse fun _ => v6? s.toList with
  | some (address, []) => some address
  | _ => none

end SocketAddress

/-! ## Writing -/

namespace Ipv4

def toText (ip : Ipv4) : String :=
  ".".intercalate ([ip.a, ip.b, ip.c, ip.d].map fun n => toString n.toNat)

end Ipv4

namespace Ipv6

/-- The address of the shorter kind that stands behind ten octets of zeros and
two of ones. -/
def mapped? (ip : Ipv6) : Option Ipv4 :=
  match ip.groups with
  | [0, 0, 0, 0, 0, 0xffff, g, h] =>
    some ⟨(g >>> 8).toUInt8, g.toUInt8, (h >>> 8).toUInt8, h.toUInt8⟩
  | _ => none

/-- How many zeros a row of groups begins with. -/
def leadingZeros (gs : List UInt16) : Nat := (gs.takeWhile (· == 0)).length

/-- Where the longest run of zeros begins, and its length: the first such run. -/
def longestZeros (gs : List UInt16) : Nat × Nat :=
  (List.range gs.length).foldl
    (fun best i =>
      let run := leadingZeros (gs.drop i)
      if best.2 < run then (i, run) else best)
    (0, 0)

def groupsText (gs : List UInt16) : String :=
  ":".intercalate (gs.map fun g => String.ofList (Nat.toDigits 16 g.toNat))

/-- Groups without leading zeros. The longest run of at least two groups that
are zero becomes a double colon. -/
def toText (ip : Ipv6) : String :=
  match ip.mapped? with
  | some short => "::ffff:" ++ short.toText
  | none =>
    let (start, run) := longestZeros ip.groups
    if 1 < run then
      groupsText (ip.groups.take start) ++ "::" ++ groupsText (ip.groups.drop (start + run))
    else groupsText ip.groups

end Ipv6

namespace SocketAddress

def toText : SocketAddress → String
  | v4 ip port => ip.toText ++ ":" ++ toString port.toNat
  | v6 ip zone port =>
    "[" ++ ip.toText ++ (if zone = 0 then "" else "%" ++ toString zone.toNat) ++ "]:"
      ++ toString port.toNat

end SocketAddress

end TenantAuth
