-- What each turn of a directory does to the tables of organizations and users, when no
-- statement fails.

import TenantAuth.Postgres.Users
import TenantAuth.Proofs.Directory.Turns
import TenantAuth.Proofs.Postgres.Accounts
import TenantAuth.Proofs.Postgres.Running

namespace TenantAuth.Postgres

open Step

/-! ## Operations in parts -/

namespace Users

/-- What is done for a new organization once the email is known to be free. Its quota is one
that the database can keep. -/
def founding (name ownerEmail ownerName : String) (new : NewOrganization) :
    Step StoreError (Organization × Principal) := do
  let owner := new.toOwner ownerEmail ownerName
  let createdAt ← oneValue "insert_organization"
    (.insertOrganization new.id name Organization.defaultTier 5) Cell.time?
  insertUser owner
  perform "set_organization_owner" (.setOwner owner.id new.id)
  pure ({ new.toOrganization name with createdAt := .ofInstant createdAt }, owner)

theorem createOrganization_eq [TransactionManager] (name ownerEmail ownerName : String)
    (new : NewOrganization) :
    createOrganization name ownerEmail ownerName new = transaction "begin_transaction" (do
      ensureEmailFree ownerEmail
      founding name ownerEmail ownerName new) := rfl

/-- What is done for a new sub-account once it is known how many there may be and are. -/
def admitting (o : OrganizationId) (email name : String) (new : NewUser) (limit count : Int) :
    Step StoreError Principal :=
  if limit ≤ count then fail (.fullOrganization o count)
  else do
    let member := new.toSubAccount o email name
    insertUser member
    pure member

/-- What is done for a new sub-account once the email is known to be free. -/
def joining (o : OrganizationId) (email name : String) (new : NewUser) :
    Step StoreError Principal := do
  let limit ← lockedQuota o
  let count ← oneValue "count_sub_accounts" (.countSubAccounts o) Cell.int8?
  admitting o email name new limit.toInt count.toInt

theorem addUser_eq [TransactionManager] (o : OrganizationId) (email name : String) (new : NewUser) :
    addUser o email name new = transaction "begin_transaction" (do
      ensureEmailFree email
      joining o email name new) := rfl

end Users

/-! ## Rows that come in -/

/-- The row of a user who was created at a time. -/
def UserRow.of (p : Principal) (createdAt : Instant) : UserRow :=
  ⟨p.id.uuid, p.organization.uuid, p.email, p.name, p.role.name, p.overrides.items, createdAt⟩

/-- The user that a row holds once it is given back. -/
def UserRow.read (u : UserRow) : Except StoreError Principal := principalOfRow u.row

/-- The user that a look-up gives back, if it finds a row. -/
def UserRow.readFound : Option UserRow → Except StoreError (Option Principal)
  | none => .ok none
  | some u => u.read.map some

/-- The row of an organization that was created at a time. -/
def OrganizationRow.of (o : Organization) (createdAt : Instant) : OrganizationRow :=
  ⟨o.id.uuid, o.name, o.owner.map (·.uuid), o.tier, Int32.ofNat o.maxSubAccounts.toNat, createdAt⟩

/-- The tables have gained a user, and maybe an organization. Both have ids that no row had. -/
structure Enrolled (a a' : Accounts) (u : UserRow) (founded : Option OrganizationRow) : Prop where
  newUser : u.id ∉ a.users.map (·.id)
  users : a'.users = u :: a.users
  newOrganization : ∀ o ∈ founded, o.id ∉ a.organizations.map (·.id)
  organizations : a'.organizations = founded.toList ++ a.organizations

/-- Nobody else has the email, since both rows are there now. -/
theorem Enrolled.newEmail {a a' : Accounts} {u : UserRow} {founded : Option OrganizationRow}
    (h : Enrolled a a' u founded) : u.email ∉ a.users.map (·.email) := by
  have hemails := a'.emails
  rw [h.users] at hemails
  exact (List.nodup_cons.mp hemails).1

namespace AccountServer

variable {now : Instant} {a a' : Accounts} {begun : Option Accounts} {depth : Nat}

/-! ## Statements -/

section

variable {s : Statement} {operation : String}
  (hs : ∀ db, execute db now s =
    ((db.accounts.execute now s).1, { db with accounts := (db.accounts.execute now s).2 }))

include hs

/-- A statement for the tables is carried out on them. -/
theorem run_statement
    (h : NoneFails (answer now) (send s ⟨depth, none⟩) ⟨a, begun⟩) :
    ∃ o a', a.carryOut now s = (.ok o, a') ∧
      (send s ⟨depth, none⟩).run (answer now) ⟨a, begun⟩ =
        (some (.ok o, ⟨depth, none⟩), ⟨a', begun⟩) := by
  have hanswer : answer now (.send s) ⟨a, begun⟩ =
      (some (a.execute now s).1, ⟨(a.execute now s).2, begun⟩) := by
    change (some (execute _ now s).1, (execute _ now s).2) = _
    rw [hs]
  obtain ⟨o, ho⟩ := h.send hanswer
  refine ⟨o, (a.execute now s).2, Accounts.execute_of_ok (Prod.ext ho rfl), ?_⟩
  rw [run_send depth hanswer, ho]

theorem run_perform
    (h : NoneFails (answer now) (Users.perform operation s ⟨depth, none⟩) ⟨a, begun⟩) :
    ∃ o a', a.carryOut now s = (.ok o, a') ∧
      (Users.perform operation s ⟨depth, none⟩).run (answer now) ⟨a, begun⟩ =
        (some (.ok (), ⟨depth, none⟩), ⟨a', begun⟩) := by
  obtain ⟨o, a', hcarried, hrun⟩ := run_statement hs (noneFails_within (noneFails_of_bind h))
  refine ⟨o, a', hcarried, ?_⟩
  rw [Users.perform, run_bind (run_within hrun)]
  rfl

/-- A statement that gives back one value. -/
theorem run_oneValue {α : Type} {read : Cell → Option α}
    (h : NoneFails (answer now) (Users.oneValue operation s read ⟨depth, none⟩) ⟨a, begun⟩) :
    ∃ o a', a.carryOut now s = (.ok o, a') ∧ ∀ name cell x, o = Accounts.oneCell name cell →
      Row.value "0" read cell = .ok x →
      (Users.oneValue operation s read ⟨depth, none⟩).run (answer now) ⟨a, begun⟩ =
        (some (.ok x, ⟨depth, none⟩), ⟨a', begun⟩) := by
  obtain ⟨o, a', hcarried, hrun⟩ := run_statement hs (noneFails_within (noneFails_of_bind h))
  refine ⟨o, a', hcarried, ?_⟩
  rintro name cell x rfl hread
  rw [Users.oneValue, run_bind (run_within hrun)]
  change (lift ((Row.value "0" read cell).mapError _) _).run _ _ = _
  rw [hread]
  rfl

end

theorem run_ensureEmailFree {email : String}
    (h : NoneFails (answer now) (Users.ensureEmailFree email ⟨depth, none⟩) ⟨a, begun⟩) :
    (Users.ensureEmailFree email ⟨depth, none⟩).run (answer now) ⟨a, begun⟩ =
      (some (if a.users.any fun u => u.email = email then .error (.emailTaken email) else .ok (),
        ⟨depth, none⟩), ⟨a, begun⟩) := by
  obtain ⟨o, a', hcarried, hrun⟩ := run_oneValue (fun _ => rfl) (noneFails_of_bind h)
  cases hcarried
  rw [Users.ensureEmailFree, run_bind (hrun _ _ _ rfl rfl)]
  cases a.users.any fun u => u.email = email <;> rfl

theorem run_insertUser {p : Principal} {i : Instant} (hi : Precise i) (hp : p.createdAt = .ofInstant i)
    (h : NoneFails (answer now) (Users.insertUser p ⟨depth, none⟩) ⟨a, begun⟩) :
    ∃ a', (Users.insertUser p ⟨depth, none⟩).run (answer now) ⟨a, begun⟩ =
        (some (.ok (), ⟨depth, none⟩), ⟨a', begun⟩) ∧
      Enrolled a a' (.of p i) none := by
  obtain ⟨o, a', hcarried, hrun⟩ := run_perform (fun _ => rfl) h
  simp only [Accounts.carryOut, Statement.params?, hp, Cell.ofTimestamp_of_precise hi] at hcarried
  obtain ⟨hnew, horganizations, husers⟩ := Accounts.insertUser_of_ok hcarried
  exact ⟨a', hrun, hnew, husers, by simp, horganizations⟩

/-! ## Users who are put in by hand -/

/-- The row of an organization. -/
def organization? (a : Accounts) (o : OrganizationId) : Option OrganizationRow :=
  a.organizations.find? fun r => r.id = o.uuid

theorem organization?_eq_none_iff {o : OrganizationId} :
    organization? a o = none ↔ o.uuid ∉ a.organizations.map (·.id) := by
  simp [organization?]

/-- The organization that comes in with a user, if there is none yet. -/
def homeFor (a : Accounts) (p : Principal) (now : Instant) : Option OrganizationRow :=
  match organization? a p.organization with
  | some _ => none
  | none => some (.of (.fresh p.organization "" now) now)

theorem run_reserve {p : Principal} {operation : String}
    (h : NoneFails (answer now)
      (Users.perform operation (.reserveOrganization p.organization) ⟨depth, none⟩) ⟨a, begun⟩) :
    ∃ a', (Users.perform operation (.reserveOrganization p.organization) ⟨depth, none⟩).run
        (answer now) ⟨a, begun⟩ = (some (.ok (), ⟨depth, none⟩), ⟨a', begun⟩) ∧
      a'.users = a.users ∧ (∀ o ∈ homeFor a p now, o.id ∉ a.organizations.map (·.id)) ∧
      a'.organizations = (homeFor a p now).toList ++ a.organizations := by
  obtain ⟨o, a', hcarried, hrun⟩ := run_perform (fun _ => rfl) h
  refine ⟨a', hrun, ?_⟩
  change (if p.organization.uuid ∈ a.organizations.map (·.id) then _ else _) = _ at hcarried
  cases hfind : organization? a p.organization with
  | some r =>
    have hthere : p.organization.uuid ∈ a.organizations.map (·.id) := by
      by_contra habsent
      rw [← organization?_eq_none_iff, hfind] at habsent
      cases habsent
    rw [if_pos hthere] at hcarried
    cases hcarried
    simp [homeFor, hfind]
  | none =>
    rw [if_neg (organization?_eq_none_iff.mp hfind)] at hcarried
    obtain ⟨-, hnew, horganizations, husers⟩ := Accounts.insertOrganization_of_ok hcarried
    rw [homeFor, hfind]
    refine ⟨husers, ?_, horganizations⟩
    rintro o ⟨⟩
    exact hnew

theorem run_insert {p : Principal} {i : Instant} (hi : Precise i) (hp : p.createdAt = .ofInstant i)
    (h : NoneFails (answer now) ((do
      Users.perform "insert_organization" (.reserveOrganization p.organization)
      Users.insertUser p : Step StoreError Unit) ⟨depth, none⟩) ⟨a, begun⟩) :
    ∃ a', ((do
        Users.perform "insert_organization" (.reserveOrganization p.organization)
        Users.insertUser p : Step StoreError Unit) ⟨depth, none⟩).run (answer now) ⟨a, begun⟩ =
      (some (.ok (), ⟨depth, none⟩), ⟨a', begun⟩) ∧
      Enrolled a a' (.of p i) (homeFor a p now) := by
  obtain ⟨a₁, hrun₁, husers₁, hhome, horganizations₁⟩ := run_reserve (noneFails_of_bind h)
  have h₁ := noneFails_next h hrun₁
  obtain ⟨a₂, hrun₂, henrolled⟩ := run_insertUser hi hp h₁
  refine ⟨a₂, ?_, ?_, ?_, hhome, ?_⟩
  · rw [run_bind hrun₁, hrun₂]
  · rw [← husers₁]
    exact henrolled.newUser
  · rw [← husers₁]
    exact henrolled.users
  · rw [← horganizations₁]
    exact henrolled.organizations

/-! ## New organizations -/

/-- The owner is set in the row that came in last, and in no other one. -/
theorem map_ownedBy_cons {owner : Uuid} {o : OrganizationRow} {os : List OrganizationRow}
    (h : o.id ∉ os.map (·.id)) :
    (o :: os).map (Accounts.ownedBy owner o.id) = { o with owner := some owner } :: os := by
  have hothers : os.map (Accounts.ownedBy owner o.id) = os := by
    refine (List.map_congr_left fun o' ho' => ?_).trans (List.map_id os)
    refine if_neg fun hid => h ?_
    rw [← hid]
    exact List.mem_map_of_mem ho'
  rw [List.map_cons, hothers, Accounts.ownedBy, if_pos rfl]

theorem run_founding {name email ownerName : String} {new : NewOrganization}
    (hprecise : Precise new.ownerCreatedAt)
    (h : NoneFails (answer new.createdAt) (Users.founding name email ownerName new ⟨depth, none⟩)
      ⟨a, begun⟩) :
    ∃ a', (Users.founding name email ownerName new ⟨depth, none⟩).run (answer new.createdAt)
        ⟨a, begun⟩ =
      (some (.ok (new.toOrganization name, new.toOwner email ownerName), ⟨depth, none⟩), ⟨a', begun⟩) ∧
      Enrolled a a' (.of (new.toOwner email ownerName) new.ownerCreatedAt)
        (some (.of (new.toOrganization name) new.createdAt)) := by
  -- the organization comes in without an owner, then the owner, who is set in it at last
  obtain ⟨o₁, a₁, hcarried₁, hrun₁⟩ := run_oneValue (fun _ => rfl) (noneFails_of_bind h)
  obtain ⟨rfl, hnew, horganizations₁, husers₁⟩ := Accounts.insertOrganization_of_ok hcarried₁
  have hcreated := hrun₁ _ _ new.createdAt rfl rfl
  have h₁ := noneFails_next h hcreated
  obtain ⟨a₂, hrun₂, henrolled⟩ := run_insertUser hprecise rfl (noneFails_of_bind h₁)
  have h₂ := noneFails_next h₁ hrun₂
  obtain ⟨o₃, a₃, hcarried₃, hrun₃⟩ := run_perform (fun _ => rfl) (noneFails_of_bind h₂)
  cases hcarried₃
  refine ⟨a₂.setOwner new.owner.uuid new.id.uuid, ?_, ?_, ?_, ?_, ?_⟩
  · rw [Users.founding, run_bind hcreated, run_bind hrun₂, run_bind hrun₃]
    rfl
  · rw [← husers₁]
    exact henrolled.newUser
  · rw [← husers₁]
    exact henrolled.users
  · rintro o ⟨⟩
    exact hnew
  · change a₂.organizations.map _ = _
    rw [henrolled.organizations, horganizations₁]
    exact map_ownedBy_cons hnew

/-! ## New sub-accounts -/

/-- How many sub-accounts there are in an organization. -/
def subAccounts (a : Accounts) (o : OrganizationId) : Nat :=
  (a.users.filter fun u => u.organization = o.uuid && u.role = "sub_account").length

theorem run_lockedQuota {o : OrganizationId}
    (h : NoneFails (answer now) (Users.lockedQuota o ⟨depth, none⟩) ⟨a, begun⟩) :
    (Users.lockedQuota o ⟨depth, none⟩).run (answer now) ⟨a, begun⟩ =
      (some (match organization? a o with
        | none => .error (.noOrganization o)
        | some r => .ok r.maxSubAccounts, ⟨depth, none⟩), ⟨a, begun⟩) := by
  obtain ⟨outcome, a', hcarried, hrun⟩ := run_statement (fun _ => rfl) (noneFails_within (noneFails_of_bind h))
  cases hcarried
  rw [Users.lockedQuota, run_bind (run_within hrun)]
  simp only [List.head?_map, List.head?_filter]
  rw [organization?]
  cases a.organizations.find? fun r => r.id = o.uuid <;> rfl

section

variable {o : OrganizationId} {email name : String} {new : NewUser}

/-- The organization is full, or it is not and the user comes in. -/
theorem run_admitting {limit count : Int} (hprecise : Precise new.createdAt)
    (h : NoneFails (answer now) (Users.admitting o email name new limit count ⟨depth, none⟩)
      ⟨a, begun⟩) :
    (limit ≤ count ∧
      (Users.admitting o email name new limit count ⟨depth, none⟩).run (answer now) ⟨a, begun⟩ =
        (some (.error (.fullOrganization o count), ⟨depth, none⟩), ⟨a, begun⟩)) ∨
    (¬ limit ≤ count ∧ ∃ a',
      (Users.admitting o email name new limit count ⟨depth, none⟩).run (answer now) ⟨a, begun⟩ =
        (some (.ok (new.toSubAccount o email name), ⟨depth, none⟩), ⟨a', begun⟩) ∧
      Enrolled a a' (.of (new.toSubAccount o email name) new.createdAt) none) := by
  unfold Users.admitting at *
  by_cases hfull : limit ≤ count
  · rw [if_pos hfull]
    exact Or.inl ⟨hfull, rfl⟩
  · rw [if_neg hfull] at h ⊢
    obtain ⟨a', hinserted, henrolled⟩ := run_insertUser hprecise rfl (noneFails_of_bind h)
    refine Or.inr ⟨hfull, a', ?_, henrolled⟩
    rw [run_bind hinserted]
    rfl

theorem run_joining_absent (hfind : organization? a o = none)
    (h : NoneFails (answer now) (Users.joining o email name new ⟨depth, none⟩) ⟨a, begun⟩) :
    (Users.joining o email name new ⟨depth, none⟩).run (answer now) ⟨a, begun⟩ =
      (some (.error (.noOrganization o), ⟨depth, none⟩), ⟨a, begun⟩) := by
  have hlocked := run_lockedQuota (noneFails_of_bind h)
  rw [hfind] at hlocked
  exact run_bind_error _ hlocked

/-- The count that is read is the number of sub-accounts. -/
theorem run_joining_found {r : OrganizationRow} (hfind : organization? a o = some r)
    (h : NoneFails (answer now) (Users.joining o email name new ⟨depth, none⟩) ⟨a, begun⟩) :
    let rest := Users.admitting o email name new r.maxSubAccounts.toInt (subAccounts a o) ⟨depth, none⟩
    NoneFails (answer now) rest ⟨a, begun⟩ ∧
      (Users.joining o email name new ⟨depth, none⟩).run (answer now) ⟨a, begun⟩ =
        rest.run (answer now) ⟨a, begun⟩ := by
  have hlocked := run_lockedQuota (noneFails_of_bind h)
  rw [hfind] at hlocked
  have hcounting := noneFails_next h hlocked
  obtain ⟨outcome, a', hcarried, hrun⟩ := run_oneValue (fun _ => rfl) (noneFails_of_bind hcounting)
  obtain ⟨hcount, rfl⟩ := Prod.mk.inj hcarried
  obtain ⟨hsmall, rfl⟩ := Accounts.count_of_ok hcount
  have htoInt : (Int64.ofNat (subAccounts a o)).toInt = subAccounts a o :=
    Int64.toInt_ofNat_of_lt hsmall
  have hcounted := hrun _ _ _ rfl rfl
  have hrest := noneFails_next hcounting hcounted
  rw [← htoInt]
  refine ⟨hrest, ?_⟩
  rw [Users.joining, run_bind hlocked, run_bind hcounted]
  rfl

end

/-! ## Transactions -/

section

variable [TransactionManager] {α : Type} {operation operation' : String} {p : Step StoreError α}

theorem run_transaction {x : α}
    (h : (p ⟨1, none⟩).run (answer now) ⟨a, some a⟩ =
      (some (.ok x, ⟨1, none⟩), ⟨a', some a⟩)) :
    (connected operation (transaction operation' p)).run (answer now) ⟨a, none⟩ =
      (some (.ok x), ⟨a', none⟩) := run_connected rfl (Step.run_transaction rfl rfl h)

theorem run_transaction_error {e : StoreError}
    (h : (p ⟨1, none⟩).run (answer now) ⟨a, some a⟩ =
      (some (.error e, ⟨1, none⟩), ⟨a', some a⟩)) :
    (connected operation (transaction operation' p)).run (answer now) ⟨a, none⟩ =
      (some (.error e), ⟨a, none⟩) := run_connected rfl (Step.run_transaction_error rfl rfl h)

theorem noneFails_transaction
    (h : NoneFails (answer now) (connected operation (transaction operation' p)) ⟨a, none⟩) :
    NoneFails (answer now) (p ⟨1, none⟩) ⟨a, some a⟩ :=
  Postgres.noneFails_transaction rfl (noneFails_connected rfl h)

end

/-! ## Reading -/

/-- A look-up of one user. -/
theorem run_optionalUser {operation : String} {s : Statement} {q : UserRow → Bool}
    (hs : ∀ db, execute db now s =
      ((db.accounts.execute now s).1, { db with accounts := (db.accounts.execute now s).2 }))
    (hselect : a.carryOut now s = (.ok (a.select q), a))
    (h : NoneFails (answer now) (Users.optionalUser operation s ⟨depth, none⟩) ⟨a, begun⟩) :
    (Users.optionalUser operation s ⟨depth, none⟩).run (answer now) ⟨a, begun⟩ =
      (some (UserRow.readFound (a.users.filter q).head?, ⟨depth, none⟩), ⟨a, begun⟩) := by
  obtain ⟨o, a', hcarried, hrun⟩ := run_statement hs (noneFails_within (noneFails_of_bind h))
  rw [hselect] at hcarried
  cases hcarried
  rw [Users.optionalUser, run_bind (run_within hrun)]
  simp only [Accounts.select, List.head?_map]
  cases (a.users.filter q).head? with
  | none => rfl
  | some u =>
    change ((lift u.read >>= fun p => pure (some p)) _).run _ _ = (some (u.read.map some, _), _)
    cases u.read <;> rfl

theorem run_listByOrganization {o : OrganizationId}
    (h : NoneFails (answer now) (Users.listByOrganization o ⟨depth, none⟩) ⟨a, begun⟩) :
    (Users.listByOrganization o ⟨depth, none⟩).run (answer now) ⟨a, begun⟩ =
      (some (((a.users.filter fun u => u.organization = o.uuid).mergeSort UserRow.comesBefore).mapM
        UserRow.read, ⟨depth, none⟩), ⟨a, begun⟩) := by
  obtain ⟨outcome, a', hcarried, hrun⟩ :=
    run_statement (fun _ => rfl) (noneFails_within (noneFails_of_bind h))
  cases hcarried
  rw [Users.listByOrganization, run_bind (run_within hrun), List.mapM_map]
  change (lift (List.mapM UserRow.read _) _).run _ _ = _
  cases List.mapM UserRow.read _ <;> rfl

/-! ## Calls that write -/

section

variable [TransactionManager] {α : Type} {operation operation' email : String}
  {p : Step StoreError α}

/-- A taken email is all that is looked at. -/
theorem run_taken (htaken : (a.users.any fun u => u.email = email) = true)
    (h : NoneFails (answer now) (connected operation (transaction operation' do
      Users.ensureEmailFree email
      p)) ⟨a, none⟩) :
    (connected operation (transaction operation' do
      Users.ensureEmailFree email
      p)).run (answer now) ⟨a, none⟩ = (some (.error (.emailTaken email)), ⟨a, none⟩) := by
  have hchecked := run_ensureEmailFree (noneFails_of_bind (noneFails_transaction h))
  rw [htaken] at hchecked
  exact run_transaction_error (run_bind_error _ hchecked)

/-- With a free email the rest decides. -/
theorem run_free (hfree : (a.users.any fun u => u.email = email) = false)
    (h : NoneFails (answer now) (connected operation (transaction operation' do
      Users.ensureEmailFree email
      p)) ⟨a, none⟩) :
    NoneFails (answer now) (p ⟨1, none⟩) ⟨a, some a⟩ ∧
      ((do
        Users.ensureEmailFree email
        p : Step StoreError α) ⟨1, none⟩).run (answer now) ⟨a, some a⟩ =
        (p ⟨1, none⟩).run (answer now) ⟨a, some a⟩ := by
  have hbody := noneFails_transaction h
  have hchecked := run_ensureEmailFree (noneFails_of_bind hbody)
  rw [hfree] at hchecked
  exact ⟨noneFails_next hbody hchecked, run_bind hchecked⟩

end

end AccountServer

end TenantAuth.Postgres
