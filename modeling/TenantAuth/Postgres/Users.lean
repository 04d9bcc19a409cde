-- The directory of organizations and users in a database. What checks and
-- then writes does both in one transaction.

import TenantAuth.Directory.Store
import TenantAuth.Postgres.Decode
import TenantAuth.Postgres.Link

namespace TenantAuth.Postgres.Users

open Step

/-- The row that a statement must give back, as its one value. -/
def oneValue {α : Type} (operation : String) (s : Statement) (read : Cell → Option α) :
    Step StoreError α := do
  let outcome ← within operation (send s)
  match outcome.rows.head? with
  | none => fail (Failure.noRow.toStoreError operation)
  | some row => lift ((row.single read).mapError (Failure.toStoreError operation))

/-- A statement of which only the success matters. -/
def perform (operation : String) (s : Statement) : Step StoreError Unit := do
  let _ ← within operation (send s)
  pure ()

/-- Refuse an email that somebody has. -/
def ensureEmailFree (email : String) : Step StoreError Unit := do
  let taken ← oneValue "check_email" (.emailTaken email) Cell.bool?
  if taken then fail (.emailTaken email) else pure ()

def insertUser (p : Principal) : Step StoreError Unit := perform "insert_user" (.insertUser p)

/-- Put in a user by hand, with an organization if there is none. -/
def insert [TransactionManager] (p : Principal) : Step StoreError Unit :=
  transaction "begin_transaction" do
    perform "insert_organization" (.reserveOrganization p.organization)
    insertUser p

/-- A quota as the database keeps it. -/
def storedQuota (n : UInt32) : Except StoreError Int32 :=
  if n.toNat < 1 <<< 31 then .ok (Int32.ofNat n.toNat)
  else .error (.corrupt "max_sub_accounts: out of range integral type conversion attempted")

/-- The time of the organization is that of the database. -/
def createOrganization [TransactionManager] (name ownerEmail ownerName : String)
    (new : NewOrganization) : Step StoreError (Organization × Principal) :=
  let organization := new.toOrganization name
  let owner := new.toOwner ownerEmail ownerName
  transaction "begin_transaction" do
    ensureEmailFree ownerEmail
    let quota ← lift (storedQuota organization.maxSubAccounts)
    let createdAt ← oneValue "insert_organization"
      (.insertOrganization organization.id organization.name organization.tier quota) Cell.time?
    insertUser owner
    perform "set_organization_owner" (.setOwner owner.id organization.id)
    pure ({ organization with createdAt := .ofInstant createdAt }, owner)

/-- The quota of an organization, locked until the transaction ends. -/
def lockedQuota (o : OrganizationId) : Step StoreError Int32 := do
  let outcome ← within "lock_organization" (send (.lockOrganization o))
  match outcome.rows.head? with
  | none => fail (.noOrganization o)
  | some row =>
    lift ((row.single Cell.int4?).mapError (Failure.toStoreError "lock_organization"))

/-- The organization is locked while its sub-accounts are counted, so the count
still holds when the new one is written. -/
def addUser [TransactionManager] (o : OrganizationId) (email name : String) (new : NewUser) :
    Step StoreError Principal :=
  transaction "begin_transaction" do
    ensureEmailFree email
    let limit ← lockedQuota o
    let count ← oneValue "count_sub_accounts" (.countSubAccounts o) Cell.int8?
    if limit.toInt ≤ count.toInt then fail (.fullOrganization o count.toInt)
    else do
      let member := new.toSubAccount o email name
      insertUser member
      pure member

/-- The user in the first row, if there is a row. -/
def optionalUser (operation : String) (s : Statement) : Step StoreError (Option Principal) := do
  let outcome ← within operation (send s)
  match outcome.rows.head? with
  | none => pure none
  | some row => do
    let p ← lift (principalOfRow row)
    pure (some p)

def listByOrganization (o : OrganizationId) : Step StoreError (List Principal) := do
  let outcome ← within "list_users" (send (.listUsers o))
  lift (outcome.rows.mapM principalOfRow)

/-- One call, over a connection of its own. -/
def answer [TransactionManager] : (c : DirectoryCall) → DatabaseProgram c.Reply
  | .findById id => connected "find_user_by_id" (optionalUser "find_user_by_id" (.findUser id))
  | .findByEmail email =>
    connected "find_user_by_email" (optionalUser "find_user_by_email" (.findUserByEmail email))
  | .listByOrganization o => connected "list_users" (listByOrganization o)
  | .createOrganization name ownerEmail ownerName new =>
    connected "begin_transaction" (createOrganization name ownerEmail ownerName new)
  | .addUser o email name new => connected "begin_transaction" (addUser o email name new)
  | .provisionOwner email name new =>
    (connected "begin_transaction" (createOrganization name email name new)).andThen fun
      | .ok (_, owner) => pure (.ok owner)
      | .error e => pure (.error e)

/-- Put in a user by hand, over a connection of its own. -/
def answerInsert [TransactionManager] (p : Principal) : DatabaseProgram (Except StoreError Unit) :=
  connected "begin_transaction" (insert p)

end TenantAuth.Postgres.Users
