-- What a directory of organizations and users is asked, and the directory
-- that is kept in memory.

import TenantAuth.Error
import TenantAuth.Keyed
import TenantAuth.Principal

namespace TenantAuth

/-- What a new organization gets besides what is asked for: ids that nobody has
had before, and the time. -/
structure NewOrganization where
  id : OrganizationId
  createdAt : Instant
  owner : UserId
  ownerCreatedAt : Instant
  deriving DecidableEq

/-- What a new user gets besides what is asked for. -/
structure NewUser where
  id : UserId
  createdAt : Instant
  deriving DecidableEq

/-- What a directory can be asked to do. Each call is one step that no other
call comes in between. -/
inductive DirectoryCall where
  | findById (id : UserId)
  | findByEmail (email : String)
  /-- The members of an organization, oldest first. -/
  | listByOrganization (organization : OrganizationId)
  /-- Create an organization together with its owner. -/
  | createOrganization (name ownerEmail ownerName : String) (new : NewOrganization)
  /-- Add a sub-account to an organization. -/
  | addUser (organization : OrganizationId) (email name : String) (new : NewUser)
  /-- Create an organization for somebody who logs in for the first time; it
  bears the name of its owner. -/
  | provisionOwner (email name : String) (new : NewOrganization)
  deriving DecidableEq

/-- The reply to a call when all goes well. -/
abbrev DirectoryCall.Answer : DirectoryCall → Type
  | .findById _ => Option Principal
  | .findByEmail _ => Option Principal
  | .listByOrganization _ => List Principal
  | .createOrganization .. => Organization × Principal
  | .addUser .. => Principal
  | .provisionOwner .. => Principal

/-- The reply to a call. -/
abbrev DirectoryCall.Reply (c : DirectoryCall) : Type := Except StoreError c.Answer

namespace NewOrganization

def toOrganization (new : NewOrganization) (name : String) : Organization :=
  { Organization.fresh new.id name new.createdAt with owner := some new.owner }

def toOwner (new : NewOrganization) (email name : String) : Principal :=
  Principal.fresh new.owner new.id email name .owner new.ownerCreatedAt

end NewOrganization

def NewUser.toSubAccount (new : NewUser) (organization : OrganizationId) (email name : String) :
    Principal :=
  Principal.fresh new.id organization email name .subAccount new.createdAt

namespace StoreError

/-- The refusal of an email that somebody has. -/
def emailTaken (email : String) : StoreError := .conflict ("email already registered: " ++ email)

/-- The refusal of an organization that does not exist. -/
def noOrganization (o : OrganizationId) : StoreError := .missing ("organization " ++ o.toText)

/-- The refusal of one more sub-account. -/
def fullOrganization (o : OrganizationId) (count : Int) : StoreError :=
  .limitReached ("organization " ++ o.toText ++ " already has " ++ toString count ++ " sub-accounts")

end StoreError

/-- A directory in memory. -/
structure Directory where
  users : Keyed UserId Principal
  organizations : Keyed OrganizationId Organization

namespace Directory

def empty : Directory := ⟨.empty, .empty⟩

def findByEmail? (d : Directory) (email : String) : Option Principal :=
  d.users.values.find? fun p => p.email = email

def members (d : Directory) (o : OrganizationId) : List Principal :=
  d.users.values.filter fun p => p.belongsTo o

/-- The order of members: by the time they were created, then by email. -/
def comesBefore (a b : Principal) : Bool :=
  if a.createdAt = b.createdAt then decide (a.email ≤ b.email) else a.createdAt.le b.createdAt

def membersInOrder (d : Directory) (o : OrganizationId) : List Principal :=
  (d.members o).mergeSort comesBefore

def subAccounts (d : Directory) (o : OrganizationId) : List Principal :=
  (d.members o).filter fun p => p.role = .subAccount

/-- Put in a user, in place of one with the same id. -/
def file (d : Directory) (p : Principal) : Directory := { d with users := d.users.put p.id p }

/-- Put in a user by hand, with an organization if there is none; an email that
somebody else has is refused. -/
def insert (d : Directory) (p : Principal) (now : Instant) : Except StoreError Unit × Directory :=
  if d.users.values.any fun q => q.email = p.email && q.id ≠ p.id then
    (.error (.emailTaken p.email), d)
  else
    let organizations :=
      match d.organizations.find? p.organization with
      | some _ => d.organizations
      | none => d.organizations.put p.organization (.fresh p.organization "" now)
    (.ok (), { d with organizations }.file p)

def createOrganization (d : Directory) (name ownerEmail ownerName : String)
    (new : NewOrganization) : Except StoreError (Organization × Principal) × Directory :=
  match d.findByEmail? ownerEmail with
  | some _ => (.error (.emailTaken ownerEmail), d)
  | none =>
    let organization := new.toOrganization name
    let owner := new.toOwner ownerEmail ownerName
    (.ok (organization, owner),
      { d with organizations := d.organizations.put organization.id organization }.file owner)

/-- A taken email is refused first, then an unknown organization, then one that
has as many sub-accounts as it may have. -/
def addUser (d : Directory) (o : OrganizationId) (email name : String) (new : NewUser) :
    Except StoreError Principal × Directory :=
  match d.findByEmail? email with
  | some _ => (.error (.emailTaken email), d)
  | none =>
    match d.organizations.find? o with
    | none => (.error (.noOrganization o), d)
    | some organization =>
      let count := (d.subAccounts o).length
      if organization.maxSubAccounts.toNat ≤ count then (.error (.fullOrganization o count), d)
      else
        let member := new.toSubAccount o email name
        (.ok member, d.file member)

/-- One call. -/
def answer : (c : DirectoryCall) → Directory → c.Reply × Directory
  | .findById id, d => (.ok (d.users.find? id), d)
  | .findByEmail email, d => (.ok (d.findByEmail? email), d)
  | .listByOrganization o, d => (.ok (d.membersInOrder o), d)
  | .createOrganization name ownerEmail ownerName new, d =>
    d.createOrganization name ownerEmail ownerName new
  | .addUser o email name new, d => d.addUser o email name new
  | .provisionOwner email name new, d =>
    let (reply, d') := d.createOrganization name email name new
    (reply.map (·.2), d')

end Directory

end TenantAuth
