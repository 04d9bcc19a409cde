-- The tables of organizations and users in the database, with the constraints of the
-- schema, and what the statements that are sent to them mean for them.

import Mathlib.Algebra.Order.Ring.Nat
import Mathlib.Data.List.Nodup
import TenantAuth.Directory.Store
import TenantAuth.Postgres.Decode
import TenantAuth.Postgres.Link
import TenantAuth.Text.Utf8

namespace TenantAuth.Postgres

/-! ## Values that the database does not take -/

/-- The text holds the character that the database keeps in no text. -/
def hasNul (s : String) : Bool := s.toList.contains (Char.ofNat 0)

/-- The first time that the database has, in the year 4714 before our era. -/
def earliestNanos : Int := -210866803200000000000

/-- Why the server takes a parameter for no value of its type. -/
def Cell.refusal? : Cell → Option Failure
  | .text s => if hasNul s then some nulRefusal else none
  | .texts ss => if ss.any hasNul then some nulRefusal else none
  | .time t => if t.nanos < earliestNanos then some (.server "22008" "timestamp out of range") else none
  | _ => none
where
  nulRefusal : Failure := .server "22021" "invalid byte sequence for encoding \"UTF8\": 0x00"

/-! ## Tables -/

structure OrganizationRow where
  id : Uuid
  name : String
  owner : Option Uuid
  tier : String
  maxSubAccounts : Int32
  createdAt : Instant
  deriving DecidableEq

structure UserRow where
  id : Uuid
  organization : Uuid
  email : String
  name : String
  role : String
  permissions : List String
  createdAt : Instant
  deriving DecidableEq

/-- A row as it is given back. -/
def UserRow.row (u : UserRow) : Row :=
  ⟨[("id", .uuid u.id), ("organization_id", .uuid u.organization), ("email", .text u.email),
    ("name", .text u.name), ("role", .text u.role), ("permissions", .texts u.permissions),
    ("created_at", .time u.createdAt)]⟩

/-- The order by time, then by email. Texts are compared octet by octet. -/
def UserRow.comesBefore (a b : UserRow) : Bool :=
  if a.createdAt = b.createdAt then
    decide (Text.Utf8.encode a.email.toList ≤ Text.Utf8.encode b.email.toList)
  else decide (a.createdAt ≤ b.createdAt)

/-- The names that the column of roles may hold. -/
def roleNames : List String := ["owner", "admin", "sub_account"]

/-- The rows of both tables. Ids are primary keys, emails are unique, and the organization
of a user is a foreign key. -/
structure Accounts where
  organizations : List OrganizationRow
  users : List UserRow
  organizationIds : (organizations.map (·.id)).Nodup
  quotas : ∀ o ∈ organizations, 0 ≤ o.maxSubAccounts
  userIds : (users.map (·.id)).Nodup
  emails : (users.map (·.email)).Nodup
  homes : ∀ u ∈ users, u.organization ∈ organizations.map (·.id)
  roles : ∀ u ∈ users, u.role ∈ roleNames

namespace Accounts

def empty : Accounts := ⟨[], [], by simp, by simp, by simp, by simp, by simp, by simp⟩

def duplicateKey (constraint : String) : Failure :=
  .server Failure.uniqueViolation
    ("duplicate key value violates unique constraint \"" ++ constraint ++ "\"")

/-- The constraint that an organization violates. -/
def organizationRefusal? (a : Accounts) (o : OrganizationRow) : Option Failure :=
  if ¬ 0 ≤ o.maxSubAccounts then
    some (.server "23514" ("new row for relation \"organizations\" violates check constraint " ++
      "\"organizations_max_sub_accounts_check\""))
  else if o.id ∈ a.organizations.map (·.id) then some (duplicateKey "organizations_pkey")
  else none

theorem organizationRefusal?_eq_none_iff {a : Accounts} {o : OrganizationRow} :
    a.organizationRefusal? o = none ↔ 0 ≤ o.maxSubAccounts ∧ o.id ∉ a.organizations.map (·.id) := by
  unfold organizationRefusal?
  split
  · next hquota => simp [hquota]
  · next hquota =>
    split
    · next hid => simp [hid]
    · next hid => simpa using ⟨not_not.mp hquota, by simpa using hid⟩

/-- The constraint that a user violates. -/
def userRefusal? (a : Accounts) (u : UserRow) : Option Failure :=
  if u.role ∉ roleNames then
    some (.server "23514" ("new row for relation \"users\" violates check constraint " ++
      "\"users_role_check\""))
  else if u.id ∈ a.users.map (·.id) then some (duplicateKey "users_pkey")
  else if u.email ∈ a.users.map (·.email) then some (duplicateKey "users_email_key")
  else if u.organization ∉ a.organizations.map (·.id) then
    some (.server "23503" ("insert or update on table \"users\" violates foreign key constraint " ++
      "\"users_organization_id_fkey\""))
  else none

theorem userRefusal?_eq_none_iff {a : Accounts} {u : UserRow} :
    a.userRefusal? u = none ↔
      u.role ∈ roleNames ∧ u.id ∉ a.users.map (·.id) ∧ u.email ∉ a.users.map (·.email) ∧
        u.organization ∈ a.organizations.map (·.id) := by
  unfold userRefusal?
  by_cases hrole : u.role ∈ roleNames
  · by_cases hid : u.id ∈ a.users.map (·.id)
    · simp [hrole, hid]
    · by_cases hemail : u.email ∈ a.users.map (·.email)
      · simp [hrole, hid, hemail]
      · by_cases hhome : u.organization ∈ a.organizations.map (·.id)
        · simp [hrole, hid, hemail, hhome]
        · simp [hrole, hid, hemail, hhome]
  · simp [hrole]

def addOrganization (a : Accounts) (o : OrganizationRow) (h : a.organizationRefusal? o = none) :
    Accounts where
  organizations := o :: a.organizations
  users := a.users
  organizationIds := List.nodup_cons.mpr ⟨(organizationRefusal?_eq_none_iff.mp h).2, a.organizationIds⟩
  quotas := List.forall_mem_cons.mpr ⟨(organizationRefusal?_eq_none_iff.mp h).1, a.quotas⟩
  userIds := a.userIds
  emails := a.emails
  homes u hu := List.mem_cons_of_mem _ (a.homes u hu)
  roles := a.roles

def addUser (a : Accounts) (u : UserRow) (h : a.userRefusal? u = none) : Accounts where
  organizations := a.organizations
  users := u :: a.users
  organizationIds := a.organizationIds
  quotas := a.quotas
  userIds := List.nodup_cons.mpr ⟨(userRefusal?_eq_none_iff.mp h).2.1, a.userIds⟩
  emails := List.nodup_cons.mpr ⟨(userRefusal?_eq_none_iff.mp h).2.2.1, a.emails⟩
  homes := List.forall_mem_cons.mpr ⟨(userRefusal?_eq_none_iff.mp h).2.2.2, a.homes⟩
  roles := List.forall_mem_cons.mpr ⟨(userRefusal?_eq_none_iff.mp h).1, a.roles⟩

/-- An organization with another owner, if it is the one with the id. -/
def ownedBy (owner id : Uuid) (o : OrganizationRow) : OrganizationRow :=
  if o.id = id then { o with owner := some owner } else o

theorem id_ownedBy (owner id : Uuid) (o : OrganizationRow) : (ownedBy owner id o).id = o.id := by
  unfold ownedBy
  split <;> rfl

theorem maxSubAccounts_ownedBy (owner id : Uuid) (o : OrganizationRow) :
    (ownedBy owner id o).maxSubAccounts = o.maxSubAccounts := by
  unfold ownedBy
  split <;> rfl

theorem ids_map_ownedBy (owner id : Uuid) (os : List OrganizationRow) :
    (os.map (ownedBy owner id)).map (·.id) = os.map (·.id) := by
  rw [List.map_map]
  exact List.map_congr_left fun o _ => id_ownedBy owner id o

def setOwner (a : Accounts) (owner id : Uuid) : Accounts where
  organizations := a.organizations.map (ownedBy owner id)
  users := a.users
  organizationIds := by
    rw [ids_map_ownedBy]
    exact a.organizationIds
  quotas := List.forall_mem_map.mpr fun o ho => by
    rw [maxSubAccounts_ownedBy]
    exact a.quotas o ho
  userIds := a.userIds
  emails := a.emails
  homes := by
    rw [ids_map_ownedBy]
    exact a.homes
  roles := a.roles

/-! ## Statements -/

/-- The users that pass a test. -/
def select (a : Accounts) (q : UserRow → Bool) : Outcome :=
  ⟨(a.users.filter q).map UserRow.row, (a.users.filter q).length⟩

/-- One row with one value. -/
def oneCell (name : String) (c : Cell) : Outcome := ⟨[⟨[(name, c)]⟩], 1⟩

/-- Insert an organization; `returned` is what the statement gives back. -/
def insertOrganization (a : Accounts) (o : OrganizationRow) (returned : Outcome) :
    Except Failure Outcome × Accounts :=
  match h : a.organizationRefusal? o with
  | some f => (.error f, a)
  | none => (.ok returned, a.addOrganization o h)

def insertUser (a : Accounts) (u : UserRow) : Except Failure Outcome × Accounts :=
  match h : a.userRefusal? u with
  | some f => (.error f, a)
  | none => (.ok ⟨[], 1⟩, a.addUser u h)

/-- How many users pass a test, if that is a number of eight octets. -/
def count (a : Accounts) (q : UserRow → Bool) : Except Failure Outcome :=
  if (a.users.filter q).length < 2 ^ 63 then
    .ok (oneCell "count" (.int8 (Int64.ofNat (a.users.filter q).length)))
  else .error (.server "22003" "bigint out of range")

/-- A statement with its parameters, as its text says, at a time. Columns that are not named
get the defaults of the schema. There are no other tables. -/
def carryOut (a : Accounts) (now : Instant) (s : Statement) : Except Failure Outcome × Accounts :=
  match s, s.params? with
  | .reserveOrganization _, some [.uuid id] =>
    if id ∈ a.organizations.map (·.id) then (.ok ⟨[], 0⟩, a)
    else a.insertOrganization ⟨id, "", none, "free", 5, now⟩ ⟨[], 1⟩
  | .insertOrganization .., some [.uuid id, .text name, .text tier, .int4 maxSubAccounts] =>
    a.insertOrganization ⟨id, name, none, tier, maxSubAccounts, now⟩ (oneCell "created_at" (.time now))
  | .setOwner .., some [.uuid owner, .uuid id] =>
    (.ok ⟨[], (a.organizations.filter fun o => o.id = id).length⟩, a.setOwner owner id)
  | .emailTaken _, some [.text email] =>
    (.ok (oneCell "exists" (.bool (a.users.any fun u => u.email = email))), a)
  | .lockOrganization _, some [.uuid id] =>
    let os := a.organizations.filter fun o => o.id = id
    (.ok ⟨os.map fun o => ⟨[("max_sub_accounts", .int4 o.maxSubAccounts)]⟩, os.length⟩, a)
  | .countSubAccounts _, some [.uuid id] =>
    (a.count fun u => u.organization = id && u.role = "sub_account", a)
  | .insertUser _, some [.uuid id, .uuid organization, .text email, .text name, .text role,
      .texts permissions, .time createdAt] =>
    a.insertUser ⟨id, organization, email, name, role, permissions, createdAt⟩
  | .findUser _, some [.uuid id] => (.ok (a.select fun u => u.id = id), a)
  | .findUserByEmail _, some [.text email] => (.ok (a.select fun u => u.email = email), a)
  | .listUsers _, some [.uuid id] =>
    let us := a.users.filter fun u => u.organization = id
    (.ok ⟨(us.mergeSort UserRow.comesBefore).map UserRow.row, us.length⟩, a)
  | _, _ => (.error (.server "42P01" "relation does not exist"), a)

/-- Parameters are read before anything is done. -/
def execute (a : Accounts) (now : Instant) (s : Statement) : Except Failure Outcome × Accounts :=
  match (s.params?.getD []).findSome? Cell.refusal? with
  | some f => (.error f, a)
  | none => a.carryOut now s

/-- What does not fail is carried out. -/
theorem execute_of_ok {a a' : Accounts} {now : Instant} {s : Statement} {o : Outcome}
    (h : a.execute now s = (.ok o, a')) : a.carryOut now s = (.ok o, a') := by
  unfold execute at h
  split at h
  · cases h
  · exact h

theorem insertOrganization_of_ok {a a' : Accounts} {o : OrganizationRow} {returned outcome : Outcome}
    (h : a.insertOrganization o returned = (.ok outcome, a')) :
    outcome = returned ∧ o.id ∉ a.organizations.map (·.id) ∧
      a'.organizations = o :: a.organizations ∧ a'.users = a.users := by
  unfold insertOrganization at h
  split at h
  · cases h
  · next hrefusal =>
    cases h
    exact ⟨rfl, (organizationRefusal?_eq_none_iff.mp hrefusal).2, rfl, rfl⟩

theorem insertUser_of_ok {a a' : Accounts} {u : UserRow} {outcome : Outcome}
    (h : a.insertUser u = (.ok outcome, a')) :
    u.id ∉ a.users.map (·.id) ∧ a'.organizations = a.organizations ∧ a'.users = u :: a.users := by
  unfold insertUser at h
  split at h
  · cases h
  · next hrefusal =>
    cases h
    exact ⟨(userRefusal?_eq_none_iff.mp hrefusal).2.1, rfl, rfl⟩

theorem count_of_ok {a : Accounts} {q : UserRow → Bool} {outcome : Outcome}
    (h : a.count q = .ok outcome) :
    (a.users.filter q).length < 2 ^ 63 ∧
      outcome = oneCell "count" (.int8 (Int64.ofNat (a.users.filter q).length)) := by
  unfold count at h
  split at h
  · next hlt =>
    cases h
    exact ⟨hlt, rfl⟩
  · cases h

end Accounts

/-! ## Transactions -/

/-- The tables, and what they were when the open transaction began, if one is open. -/
structure AccountServer where
  accounts : Accounts
  begun : Option Accounts

namespace AccountServer

/-- One statement. That a transaction in which one fails is barred to all others does not
matter here, since none fails. -/
def execute (db : AccountServer) (now : Instant) : Statement → Except Failure Outcome × AccountServer
  | .begin => (.ok ⟨[], 0⟩, { db with begun := some (db.begun.getD db.accounts) })
  | .commit => (.ok ⟨[], 0⟩, { db with begun := none })
  | .rollback => (.ok ⟨[], 0⟩, ⟨db.begun.getD db.accounts, none⟩)
  | s => ((db.accounts.execute now s).1, { db with accounts := (db.accounts.execute now s).2 })

/-- The server can always be reached, and reads its clock once in a call. -/
def answer (now : Instant) : (c : Call) → AccountServer → Option c.Reply × AccountServer
  | .connect .., db | .acquire, db => (some (.ok ()), db)
  | .send s, db => (some (db.execute now s).1, (db.execute now s).2)

end AccountServer

end TenantAuth.Postgres
