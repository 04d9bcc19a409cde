-- The query of an address as named fields, in the coding of web forms.

import TenantAuth.Text.Percent
import TenantAuth.Text.Split

namespace TenantAuth.Http.Query

open TenantAuth.Text

/-- The text that a coded part stands for. A plus sign is a space; broken octets
become U+FFFD. -/
def decodePart (cs : List Char) : String :=
  Utf8.decodeLossy (Percent.decode (cs.map fun c => if c = '+' then ' ' else c))

/-- One field: a name, and a value that may be left out. -/
def field (cs : List Char) : String × String :=
  match splitFirst? '=' cs with
  | some (name, value) => (decodePart name, decodePart value)
  | none => (decodePart cs, "")

/-- The fields of a query in their order; empty ones are skipped. -/
def fields (query : String) : List (String × String) :=
  ((splitOn '&' query.toList).filter fun piece => !piece.isEmpty).map field

/-- A field that stands twice. -/
structure Duplicate where
  name : String
  deriving DecidableEq, Repr

def Duplicate.message (d : Duplicate) : String :=
  "Failed to deserialize query string: duplicate field `" ++ d.name ++ "`"

/-- The first field whose name is one of `names` and stands in `seen` or among
the fields before it. -/
def duplicateAfter? (names seen : List String) : List (String × String) → Option Duplicate
  | [] => none
  | (name, _) :: rest =>
    if name ∉ names then duplicateAfter? names seen rest
    else if name ∈ seen then some ⟨name⟩
    else duplicateAfter? names (name :: seen) rest

/-- The first of the given names that stands a second time. -/
def duplicate? (names : List String) (fields : List (String × String)) : Option Duplicate :=
  duplicateAfter? names [] fields

end TenantAuth.Http.Query
