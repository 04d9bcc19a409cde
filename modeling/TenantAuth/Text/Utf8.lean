-- UTF-8. Octets are read into characters; where they are not UTF-8 the
-- reading goes on behind the broken part, so a reader of text can decide
-- for itself whether that part matters.

namespace TenantAuth.Text.Utf8

/-- The octets of a text. -/
def encode (cs : List Char) : List UInt8 := cs.flatMap String.utf8EncodeChar

/-- The middle of a character: how many octets are owed after the next one,
between which bounds the next one lies, and the bits read so far. -/
structure Pending where
  more : Nat
  low : Nat
  high : Nat
  bits : Nat

/-- What the first octet of a character leads to: a whole character, a
character to go on with, or nothing. -/
inductive Start where
  | whole (c : Char)
  | pending (p : Pending)
  | broken

def start (b : Nat) : Start :=
  if b < 0x80 then .whole (Char.ofNat b)
  else if b < 0xC2 then .broken
  else if b < 0xE0 then .pending ⟨0, 0x80, 0xBF, b - 0xC0⟩
  else if b = 0xE0 then .pending ⟨1, 0xA0, 0xBF, 0⟩
  else if b = 0xED then .pending ⟨1, 0x80, 0x9F, 0xD⟩
  else if b < 0xF0 then .pending ⟨1, 0x80, 0xBF, b - 0xE0⟩
  else if b = 0xF0 then .pending ⟨2, 0x90, 0xBF, 0⟩
  else if b < 0xF4 then .pending ⟨2, 0x80, 0xBF, b - 0xF0⟩
  else if b = 0xF4 then .pending ⟨2, 0x80, 0x8F, 4⟩
  else .broken

/-- Read one octet between two characters. What is read stands newest first. -/
def feedFresh (out : List (Option Char)) (b : Nat) : List (Option Char) × Option Pending :=
  match start b with
  | .whole c => (some c :: out, none)
  | .pending p => (out, some p)
  | .broken => (none :: out, none)

/-- Read one octet. An octet that cannot go on with the character before it
ends the broken part and is read afresh. -/
def feed (out : List (Option Char)) : Option Pending → Nat → List (Option Char) × Option Pending
  | none, b => feedFresh out b
  | some p, b =>
    if p.low ≤ b ∧ b ≤ p.high then
      let bits := 64 * p.bits + (b - 0x80)
      match p.more with
      | 0 => (some (Char.ofNat bits) :: out, none)
      | n + 1 => (out, some ⟨n, 0x80, 0xBF, bits⟩)
    else feedFresh (none :: out) b

def decodeFrom (out : List (Option Char)) : Option Pending → List UInt8 → List (Option Char)
  | none, [] => out.reverse
  | some _, [] => (none :: out).reverse
  | p, b :: bs =>
    let (out', p') := feed out p b.toNat
    decodeFrom out' p' bs

/-- The characters of a row of octets, with one `none` for each longest part
that is no character. -/
def decode (bs : List UInt8) : List (Option Char) := decodeFrom [] none bs

/-- The text of a row of octets, with U+FFFD for each broken part. -/
def decodeLossy (bs : List UInt8) : String :=
  String.ofList ((decode bs).map fun c => c.getD (Char.ofNat 0xFFFD))

/-- The text of a row of octets that is UTF-8 throughout. -/
def decode? (bs : List UInt8) : Option String :=
  ((decode bs).mapM id).map String.ofList

/-! ## Faults -/

/-- The first octets that are not UTF-8: where they begin and how many belong
together, or that the octets end inside a character. -/
inductive Fault where
  | invalid (start count : Nat)
  | incomplete (start : Nat)
  deriving DecidableEq, Repr

def Fault.message : Fault → String
  | invalid start count =>
    "invalid utf-8 sequence of " ++ toString count ++ " bytes from index " ++ toString start
  | incomplete start => "incomplete utf-8 byte sequence from index " ++ toString start

/-- The first fault from a position on. A character that is under way comes with
the position at which it began. -/
def faultFrom? (position : Nat) : Option (Nat × Pending) → List UInt8 → Option Fault
  | none, [] => none
  | some (begun, _), [] => some (.incomplete begun)
  | none, b :: bs =>
    match start b.toNat with
    | .whole _ => faultFrom? (position + 1) none bs
    | .pending p => faultFrom? (position + 1) (some (position, p)) bs
    | .broken => some (.invalid position 1)
  | some (begun, p), b :: bs =>
    if p.low ≤ b.toNat ∧ b.toNat ≤ p.high then
      match p.more with
      | 0 => faultFrom? (position + 1) none bs
      | n + 1 => faultFrom? (position + 1) (some (begun, ⟨n, 0x80, 0xBF, 0⟩)) bs
    else some (.invalid begun (position - begun))

/-- The text of a row of octets, or the first fault in it. -/
def ofOctets (bs : List UInt8) : Except Fault String :=
  match faultFrom? 0 none bs with
  | some fault => .error fault
  | none => .ok (decodeLossy bs)

end TenantAuth.Text.Utf8
