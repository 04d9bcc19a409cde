-- Members of objects by name, where what is missing or null counts as absent.

import TenantAuth.Json.Reader

namespace TenantAuth.Json

def members : Read → List (Spelling × Read)
  | .object ms => ms
  | _ => []

/-- The first member of a name, if it is not null. -/
def member? (v : Read) (name : String) : Option Read :=
  match v.members.lookup (.text name) with
  | some .null => none
  | m => m

/-- What a member says, or a value for an absent one. -/
def memberOr {α : Type} (v : Read) (name : String) (read : Read → Option α) (whenAbsent : α) :
    Option α :=
  match v.member? name with
  | none => some whenAbsent
  | some m => read m

/-- What a member says, or nothing for an absent one. -/
def memberOrNone {α : Type} (v : Read) (name : String) (read : Read → Option α) :
    Option (Option α) := v.memberOr name (fun m => (read m).map some) none

def bool? : Read → Option Bool
  | .bool b => some b
  | _ => none

/-- The items of an array, each of them read. -/
def list? {α : Type} (read : Read → Option α) (v : Read) : Option (List α) :=
  v.array?.bind fun items => items.mapM read

def textOf? (v : Read) (name : String) : Option String := (v.member? name).bind string?

def intOf? (v : Read) (name : String) : Option Int := (v.member? name).bind int?

/-- Change the members of a name. -/
def mapMember {σ : Type} (name : σ) [DecidableEq σ] (f : Json σ → Json σ) : Json σ → Json σ
  | .object ms => .object (ms.map fun (k, x) => (k, if k = name then f x else x))
  | v => v

end TenantAuth.Json
