-- Reading domain values out of JSON values.

import TenantAuth.Json.Value

namespace TenantAuth.Json

open TenantAuth.Text

def string? : Read → Option String
  | .string spelling => spelling.text?
  | _ => none

def array? : Read → Option (List Read)
  | .array items => some items
  | _ => none

def strings? (v : Read) : Option (List String) := v.array?.bind fun items => items.mapM string?

/-- The digits of a whole number; no number in use has more than twenty. -/
def natOfDigits? (ds : List Char) : Option Nat :=
  if ds.all Char.isDigit ∧ ds.length ≤ 20 then some (valueOfDigits ds) else none

/-- A number that is written as a whole number: no point, no exponent, and no
minus in front of zero. -/
def int? : Read → Option Int
  | .number ('-' :: ds) => (natOfDigits? ds).bind fun n => if n = 0 then none else some (-n)
  | .number ds => (natOfDigits? ds).map Int.ofNat
  | _ => none

/-- The name of a case without content: the name itself, or an object with that
one key and nothing behind it. -/
def caseName? : Read → Option String
  | .string name => name.text?
  | .object [(name, .null)] => name.text?
  | _ => none

/-- `null` or nothing at all stand for an absent value. -/
def optional {α : Type} (read : Read → Option α) : Option Read → Option (Option α)
  | none => some none
  | some .null => some none
  | some v => (read v).map some

/-- The members with a given key. -/
def valuesOf (name : String) (members : List (Spelling × Read)) : List Read :=
  (members.filter fun m => m.1 = .text name).map (·.2)

/-- The member with a given key: an outer `none` if the key is repeated. -/
def single? (name : String) (members : List (Spelling × Read)) : Option (Option Read) :=
  match valuesOf name members with
  | [] => some none
  | [v] => some (some v)
  | _ => none

/-- The fields of a record, in the order of `names`. A record is an object, in
which no field may be repeated, other keys are skipped and every key must be
readable; or an array of exactly its fields in their order. -/
def record? (names : List String) : Read → Option (List (Option Read))
  | .array items => if items.length = names.length then some (items.map some) else none
  | .object members =>
    if members.all fun m => m.1.isText then names.mapM fun name => single? name members else none
  | _ => none

end TenantAuth.Json
