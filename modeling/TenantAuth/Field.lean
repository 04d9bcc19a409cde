-- Checks on the fields of requests.

import TenantAuth.Text.Blank
import TenantAuth.Text.Split

namespace TenantAuth

open TenantAuth.Text

/-- What is wrong with a field. -/
inductive FieldFault where
  | empty
  | tooLong
  | notEmail
  deriving DecidableEq, Repr

def FieldFault.message : FieldFault → String
  | .empty => "required field is empty"
  | .tooLong => "field exceeds maximum length"
  | .notEmail => "invalid email format"

/-- A field that is refused. -/
structure FieldError where
  field : String
  fault : FieldFault
  deriving DecidableEq, Repr

def FieldError.message (e : FieldError) : String := e.field ++ ": " ++ e.fault.message

namespace Field

/-- The most characters of a name. -/
def nameLimit : Nat := 255

/-- The most octets of an email address. -/
def emailLimit : Nat := 255

/-- A name has more than blanks in it, and is not too long with all its blanks. -/
def nameFault? (name : String) : Option FieldFault :=
  if (trimChars name.toList).isEmpty then some .empty
  else if nameLimit < name.length then some .tooLong
  else none

/-- A local part and a domain with an `@` between them, and at least one dot
inside the domain; no part is empty, and nothing is blank. -/
def isEmail (cs : List Char) : Bool :=
  if cs.any fun c => isBlank c || isControl c then false
  else
    match splitFirst? '@' cs with
    | none => false
    | some (localPart, domain) =>
      let labels := splitOn '.' domain
      !localPart.isEmpty && !domain.contains '@' && 2 ≤ labels.length
        && labels.all fun label => !label.isEmpty

def emailFault? (email : String) : Option FieldFault :=
  if email.isEmpty then some .empty
  else if emailLimit < email.utf8ByteSize then some .tooLong
  else if isEmail email.toList then none
  else some .notEmail

/-- The refusal of a field, if there is something wrong with it. -/
def check (field : String) : Option FieldFault → Except FieldError Unit
  | none => .ok ()
  | some fault => .error ⟨field, fault⟩

def checkName (field name : String) : Except FieldError Unit := check field (nameFault? name)

def checkEmail (field email : String) : Except FieldError Unit := check field (emailFault? email)

end Field

end TenantAuth
