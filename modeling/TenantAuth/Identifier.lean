-- Identifiers: 128-bit numbers with a canonical text of five groups of
-- hexadecimal digits. Reading takes four forms of that text; a refusal says
-- what is wrong with the text.

import TenantAuth.Text.Digit

namespace TenantAuth

open TenantAuth.Text

/-- A 128-bit number. -/
structure Uuid where
  value : Nat
  lt_size : value < 0x100000000000000000000000000000000
  deriving DecidableEq

namespace Uuid

instance : LE Uuid := ⟨fun a b => a.value ≤ b.value⟩
instance (a b : Uuid) : Decidable (a ≤ b) := inferInstanceAs (Decidable (a.value ≤ b.value))

/-- The number made of the low 128 bits of another. -/
def ofNat (n : Nat) : Uuid := ⟨n % 0x100000000000000000000000000000000, Nat.mod_lt _ (by decide)⟩

/-- The version that the bits of an id declare. -/
def version (u : Uuid) : Nat := u.value >>> 76 % 16

/-! ## Text -/

/-- The last `count` hexadecimal digits of a number. -/
def hexDigits : Nat → Nat → List Char
  | 0, _ => []
  | count + 1, n => hexDigits count (n / 16) ++ [hexDigit (n % 16)]

/-- Groups of eight, four, four, four and twelve digits between hyphens. -/
def chars (u : Uuid) : List Char :=
  let ds := hexDigits 32 u.value
  ds.take 8 ++ '-' :: (ds.drop 8).take 4 ++ '-' :: (ds.drop 12).take 4
    ++ '-' :: (ds.drop 16).take 4 ++ '-' :: ds.drop 20

def toText (u : Uuid) : String := String.ofList u.chars

/-! ## Reading -/

/-- The number that hexadecimal digits append to `acc`. -/
def readHex : Nat → List Char → Option Nat
  | acc, [] => some acc
  | acc, c :: cs => (hexValue? c).bind fun d => readHex (16 * acc + d) cs

/-- Thirty-two digits, in either case. -/
def ofDigits? (cs : List Char) : Option Uuid :=
  if cs.length = 32 then (readHex 0 cs).map ofNat else none

/-- Thirty-two digits with hyphens between the five groups. -/
def ofGroups? (cs : List Char) : Option Uuid :=
  let hyphen (i : Nat) : Bool := cs[i]? == some '-'
  if cs.length = 36 ∧ hyphen 8 ∧ hyphen 13 ∧ hyphen 18 ∧ hyphen 23 then
    ofDigits? (cs.take 8 ++ (cs.drop 9).take 4 ++ (cs.drop 14).take 4 ++ (cs.drop 19).take 4
      ++ cs.drop 24)
  else none

/-- The name space that may stand in front of an id, in any case. -/
def urn : List Char := ['u', 'r', 'n', ':', 'u', 'u', 'i', 'd', ':']

/-- What stands between a pair of braces. -/
def inBraces? (cs : List Char) : Option (List Char) :=
  if cs.head? = some '\x7b' ∧ cs.getLast? = some '\x7d' ∧ 2 ≤ cs.length then
    some (cs.drop 1).dropLast
  else none

/-- What stands behind the name space. -/
def afterUrn? (cs : List Char) : Option (List Char) :=
  if (cs.take urn.length).map Char.toLower = urn then some (cs.drop urn.length) else none

/-- The four forms: bare digits, groups, groups in braces, groups behind the
name space. -/
def ofChars? (cs : List Char) : Option Uuid :=
  match ofDigits? cs with
  | some u => some u
  | none =>
    match ofGroups? cs with
    | some u => some u
    | none =>
      match (inBraces? cs).bind ofGroups? with
      | some u => some u
      | none => (afterUrn? cs).bind ofGroups?

end Uuid

/-! ## Refusals -/

/-- What is wrong with the text of an id. Lengths and positions count octets. -/
inductive UuidError where
  | length (found : Nat)
  | character (found : Char) (position : Nat)
  | groupCount (found : Nat)
  | groupLength (group expected found : Nat)
  deriving DecidableEq, Repr

namespace UuidError

def message : UuidError → String
  | .length n => "invalid length: found " ++ toString n
  | .character c p => "invalid character: found `" ++ String.singleton c ++ "` at " ++ toString p
  | .groupCount n => "invalid group count: expected 5, found " ++ toString n
  | .groupLength g e n =>
    "invalid group length in group " ++ toString g ++ ": expected " ++ toString e ++ ", found "
      ++ toString n

/-- Octets of a text. -/
def size (cs : List Char) : Nat := cs.foldl (fun n c => n + c.utf8Size) 0

/-- The first character that is neither a digit nor a hyphen. -/
def stray? : Nat → List Char → Option UuidError
  | _, [] => none
  | p, c :: cs =>
    if (hexValue? c).isSome ∨ c = '-' then stray? (p + c.utf8Size) cs else some (.character c p)

/-- The positions of the hyphens of a text of digits and hyphens. -/
def hyphens : Nat → List Char → List Nat
  | _, [] => []
  | p, c :: cs => if c = '-' then p :: hyphens (p + 1) cs else hyphens (p + 1) cs

/-- The first group that does not end where it should. `ends` are the
positions of the hyphens; the last group ends with the text. -/
def wrongGroup (ends : List Nat) (size : Nat) : UuidError :=
  let starts := [0, 9, 14, 19]
  let widths := [8, 4, 4, 4]
  let wrong := ((List.range 4).zip (ends.zip (starts.zip widths))).find?
    fun (_, stop, start, width) => stop ≠ start + width
  match wrong with
  | some (group, stop, start, width) => .groupLength group width (stop - start)
  | none => .groupLength 4 12 (size - 24)

/-- What is wrong with a text that is none of the forms of an id. `inner` is
the part that should be the groups, with positions from `start` on; only where
nothing marks the groups may the text be meant as bare digits. -/
def explainGroups (bareAllowed : Bool) (start : Nat) (inner : List Char) (size : Nat) : UuidError :=
  match stray? start inner with
  | some e => e
  | none =>
    let ends := hyphens 0 inner
    if bareAllowed ∧ ends.isEmpty then .length size
    else if ends.length ≠ 4 then .groupCount (ends.length + 1)
    else wrongGroup ends size

/-- What is wrong with a text that is none of the forms of an id. A text as long
as a form of groups is taken for that form, and positions count from the first
group; in any other text they count from its front. -/
def explain (cs : List Char) : UuidError :=
  let n := size cs
  if n = 0 ∨ 45 < n then .length n
  else if n = 36 then explainGroups false 0 cs n
  else
    match Uuid.inBraces? cs with
    | some inner => explainGroups false (if n = 38 then 0 else 1) inner n
    | none =>
      match Uuid.afterUrn? cs with
      | some inner => explainGroups false (if n = 45 then 0 else Uuid.urn.length) inner n
      | none => explainGroups true 0 cs n

end UuidError

namespace Uuid

/-- Read an id, or say what is wrong with the text. -/
def ofText (s : String) : Except UuidError Uuid :=
  match ofChars? s.toList with
  | some u => .ok u
  | none => .error (UuidError.explain s.toList)

def ofText? (s : String) : Option Uuid := ofChars? s.toList

end Uuid

/-! ## The three kinds of id -/

/-- An organization, within which everything else lives. -/
structure OrganizationId where
  uuid : Uuid
  deriving DecidableEq

instance : LE OrganizationId := ⟨fun a b => a.uuid ≤ b.uuid⟩
instance (a b : OrganizationId) : Decidable (a ≤ b) := inferInstanceAs (Decidable (a.uuid ≤ b.uuid))

/-- A user. -/
structure UserId where
  uuid : Uuid
  deriving DecidableEq

instance : LE UserId := ⟨fun a b => a.uuid ≤ b.uuid⟩
instance (a b : UserId) : Decidable (a ≤ b) := inferInstanceAs (Decidable (a.uuid ≤ b.uuid))

/-- A refresh session. -/
structure SessionId where
  uuid : Uuid
  deriving DecidableEq

instance : LE SessionId := ⟨fun a b => a.uuid ≤ b.uuid⟩
instance (a b : SessionId) : Decidable (a ≤ b) := inferInstanceAs (Decidable (a.uuid ≤ b.uuid))

/-- A text that is no id of the kind asked for. -/
structure InvalidId where
  kind : String
  reason : UuidError
  deriving DecidableEq, Repr

def InvalidId.message (e : InvalidId) : String := "invalid " ++ e.kind ++ ": " ++ e.reason.message

namespace OrganizationId

def toText (id : OrganizationId) : String := id.uuid.toText

def ofText (s : String) : Except InvalidId OrganizationId :=
  match Uuid.ofText s with
  | .ok u => .ok ⟨u⟩
  | .error e => .error ⟨"OrganizationId", e⟩

def ofText? (s : String) : Option OrganizationId := (ofText s).toOption

end OrganizationId

namespace UserId

def toText (id : UserId) : String := id.uuid.toText

def ofText (s : String) : Except InvalidId UserId :=
  match Uuid.ofText s with
  | .ok u => .ok ⟨u⟩
  | .error e => .error ⟨"UserId", e⟩

def ofText? (s : String) : Option UserId := (ofText s).toOption

end UserId

namespace SessionId

def toText (id : SessionId) : String := id.uuid.toText

def ofText (s : String) : Except InvalidId SessionId :=
  match Uuid.ofText s with
  | .ok u => .ok ⟨u⟩
  | .error e => .error ⟨"SessionId", e⟩

def ofText? (s : String) : Option SessionId := (ofText s).toOption

end SessionId

end TenantAuth
