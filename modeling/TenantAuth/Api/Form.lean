-- The bodies of requests.

import TenantAuth.Field
import TenantAuth.Json.Reader

namespace TenantAuth.Api

/-- What is sent to create an organization. -/
structure OrganizationForm where
  name : String
  ownerEmail : String
  ownerName : String
  deriving DecidableEq, Repr

namespace OrganizationForm

def ofJson? (v : Json.Read) : Option OrganizationForm :=
  match v.record? ["name", "owner_email", "owner_name"] with
  | some [some name, some ownerEmail, some ownerName] => do
    some ⟨← name.string?, ← ownerEmail.string?, ← ownerName.string?⟩
  | _ => none

/-- The first field that is wrong decides. -/
def check (f : OrganizationForm) : Except FieldError Unit := do
  Field.checkName "name" f.name
  Field.checkEmail "owner_email" f.ownerEmail
  Field.checkName "owner_name" f.ownerName

end OrganizationForm

/-- What is sent to add a member. -/
structure MemberForm where
  email : String
  name : String
  deriving DecidableEq, Repr

namespace MemberForm

def ofJson? (v : Json.Read) : Option MemberForm :=
  match v.record? ["email", "name"] with
  | some [some email, some name] => do some ⟨← email.string?, ← name.string?⟩
  | _ => none

def check (f : MemberForm) : Except FieldError Unit := do
  Field.checkEmail "email" f.email
  Field.checkName "name" f.name

end MemberForm

/-- What is sent to use or to drop a refresh secret. -/
structure SecretForm where
  secret : String
  deriving DecidableEq, Repr

namespace SecretForm

def ofJson? (v : Json.Read) : Option SecretForm :=
  match v.record? ["refresh_token"] with
  | some [some secret] => do some ⟨← secret.string?⟩
  | _ => none

end SecretForm

end TenantAuth.Api
