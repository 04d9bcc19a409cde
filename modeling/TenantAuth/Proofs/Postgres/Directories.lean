-- The directory in a database and the one in memory say the same, turn after turn, and hold
-- the same users and organizations.

import TenantAuth.Proofs.Identifier
import TenantAuth.Proofs.Postgres.Enrolling
import TenantAuth.Proofs.Text.Order

namespace TenantAuth.Postgres

open Step

/-! ## Rows and what they hold -/

namespace UserRow

/-- A row says of a user what the user is. -/
structure Tells (u : UserRow) (p : Principal) : Prop where
  id : p.id = ⟨u.id⟩
  organization : p.organization = ⟨u.organization⟩
  email : p.email = u.email
  role : p.role.name = u.role
  createdAt : p.createdAt = .ofInstant u.createdAt

/-- A row is read column by column. -/
theorem read_eq (u : UserRow) : u.read =
    match Role.ofName u.role with
    | .ok role => .ok ⟨⟨u.id⟩, ⟨u.organization⟩, u.email, u.name, role, .ofList u.permissions,
        .ofInstant u.createdAt⟩
    | .error e => .error (.corrupt ("user " ++ u.id.toText ++ ": " ++ e.message)) := rfl

/-- What is stored of a user is read back as that user. -/
theorem read_of {p : Principal} {i : Instant} (h : p.createdAt = .ofInstant i) :
    (of p i).read = .ok p := by
  have hrole : Role.ofName p.role.name = .ok p.role := by
    rw [Role.ofName, Role.ofName?_name]
  rw [read_eq]
  simp only [of, hrole, TextSet.ofList_items, ← h]

theorem readFound_of_map {x : Option UserRow} {y : Option Principal}
    (h : x.map read = y.map .ok) : readFound x = .ok y := by
  cases x with
  | none =>
    cases y with
    | none => rfl
    | some p => cases h
  | some u =>
    cases y with
    | none => cases h
    | some p =>
      have hread : u.read = .ok p := Option.some.inj h
      rw [readFound, hread]
      rfl

theorem tells_of_read {u : UserRow} {p : Principal} (h : u.read = .ok p) : u.Tells p := by
  rw [read_eq] at h
  split at h
  · next hrole =>
    cases h
    exact ⟨rfl, rfl, rfl, Role.name_of_ofName hrole, rfl⟩
  · cases h

/-- Rows stand in the order of members. -/
theorem comesBefore_eq {u v : UserRow} {p q : Principal} (hp : p.createdAt = .ofInstant u.createdAt)
    (hp' : p.email = u.email) (hq : q.createdAt = .ofInstant v.createdAt) (hq' : q.email = v.email) :
    u.comesBefore v = Directory.comesBefore p q := by
  rw [comesBefore, Directory.comesBefore, hp, hp', hq, hq', Timestamp.le_ofInstant]
  simp only [Text.Utf8.encode_le_encode_iff, Timestamp.ofInstant_inj]

/-- The user whom a row would hold if everybody owned something. -/
def asOwner (u : UserRow) : Principal :=
  .fresh ⟨u.id⟩ ⟨u.organization⟩ u.email u.name .owner u.createdAt

theorem comesBefore_asOwner (u v : UserRow) :
    u.comesBefore v = Directory.comesBefore u.asOwner v.asOwner := comesBefore_eq rfl rfl rfl rfl

theorem pairwise_mergeSort (us : List UserRow) :
    (us.mergeSort comesBefore).Pairwise fun u v => u.comesBefore v = true := by
  refine List.pairwise_mergeSort (fun u v w huv hvw => ?_) (fun u v => ?_) us
  · rw [comesBefore_asOwner] at *
    exact Directory.comesBefore_trans _ _ _ huv hvw
  · rw [comesBefore_asOwner, comesBefore_asOwner v u]
    exact Directory.comesBefore_total _ _

end UserRow

/-- The organization that a row holds. The constraint on quotas keeps them from being negative. -/
def OrganizationRow.organization (r : OrganizationRow) : Organization :=
  ⟨⟨r.id⟩, r.name, r.owner.map (⟨·⟩), r.tier, UInt32.ofNat r.maxSubAccounts.toInt.toNat,
    .ofInstant r.createdAt⟩

/-! ## Both directories -/

/-- A directory in memory, and the tables of one in a database. -/
structure Directories where
  memory : Directory
  accounts : Accounts

namespace Directories

/-- Both hold the same users and organizations, once the rows are read. -/
structure Same (s : Directories) : Prop where
  users : (s.accounts.users.map UserRow.read).Perm (s.memory.users.values.map .ok)
  organizations : (s.accounts.organizations.map OrganizationRow.organization).Perm
    s.memory.organizations.values

theorem head?_eq_of_perm {α : Type} {l l' : List α} (h : l.Perm l')
    (hone : ∀ x ∈ l, ∀ y ∈ l, x = y) : l.head? = l'.head? := by
  cases l with
  | nil => rw [List.nil_perm.mp h]
  | cons x l =>
    cases l' with
    | nil => exact absurd h.symm.nil_eq (by simp)
    | cons y l' =>
      rw [List.head?_cons, List.head?_cons,
        hone x List.mem_cons_self y (h.mem_iff.mpr List.mem_cons_self)]

section

variable {s : Directories} (h : s.Same)

include h

theorem read_row {u : UserRow} (hu : u ∈ s.accounts.users) :
    ∃ p ∈ s.memory.users.values, u.read = .ok p := by
  have hmem := h.users.mem_iff.mp (List.mem_map_of_mem hu)
  obtain ⟨p, hp, heq⟩ := List.mem_map.mp hmem
  exact ⟨p, hp, heq.symm⟩

/-- The same users pass a test that is made on rows and on what they hold. -/
theorem filter_users {q : UserRow → Bool} {q' : Principal → Bool}
    (hq : ∀ u p, u.Tells p → q u = q' p) :
    ((s.accounts.users.filter q).map UserRow.read).Perm
      ((s.memory.users.values.filter q').map .ok) := by
  -- the test on what was read, so that both sides are filtered after the reading
  let passes : Except StoreError Principal → Bool := fun x => x.toOption.any q'
  have hrows : (s.accounts.users.map UserRow.read).filter passes =
      (s.accounts.users.filter q).map UserRow.read := by
    rw [List.filter_map]
    congr 1
    apply List.filter_congr
    intro u hu
    obtain ⟨p, -, hread⟩ := read_row h hu
    simp only [Function.comp, passes, hread, Except.toOption, Option.any_some]
    exact (hq u p (UserRow.tells_of_read hread)).symm
  have hvalues : (s.memory.users.values.map Except.ok).filter passes =
      (s.memory.users.values.filter q').map .ok := by
    rw [List.filter_map]
    rfl
  rw [← hrows, ← hvalues]
  exact h.users.filter passes

/-- The one user who passes a test is found in both. -/
theorem find?_user {q : UserRow → Bool} {q' : Principal → Bool}
    (hq : ∀ u p, u.Tells p → q u = q' p)
    (hone : ∀ u ∈ s.accounts.users, ∀ v ∈ s.accounts.users, q u = true → q v = true → u = v) :
    ((s.accounts.users.filter q).head?).map UserRow.read =
      (s.memory.users.values.find? q').map .ok := by
  rw [← List.head?_filter, ← List.head?_map, ← List.head?_map]
  apply head?_eq_of_perm (filter_users h hq)
  simp only [List.forall_mem_map, List.mem_filter]
  rintro u ⟨hu, hqu⟩ v ⟨hv, hqv⟩
  rw [hone u hu v hv hqu hqv]

/-- Both find the same organization. -/
theorem find?_organization (o : OrganizationId) :
    (AccountServer.organization? s.accounts o).map OrganizationRow.organization =
      s.memory.organizations.values.find? fun organization => organization.id = o := by
  have hrows : (s.accounts.organizations.map OrganizationRow.organization).filter
      (fun organization => organization.id = o) =
      (s.accounts.organizations.filter fun r => r.id = o.uuid).map OrganizationRow.organization := by
    rw [List.filter_map]
    congr 1
    apply List.filter_congr
    intro r _
    obtain ⟨uuid⟩ := o
    simp [OrganizationRow.organization]
  rw [AccountServer.organization?, ← List.head?_filter, ← List.head?_filter, ← List.head?_map, ← hrows]
  apply head?_eq_of_perm (h.organizations.filter _)
  rw [hrows]
  simp only [List.forall_mem_map, List.mem_filter, decide_eq_true_eq]
  rintro r ⟨hr, hid⟩ r' ⟨hr', hid'⟩
  rw [List.inj_on_of_nodup_map s.accounts.organizationIds hr hr' (hid.trans hid'.symm)]

theorem find?_id (id : UserId) :
    ((s.accounts.users.filter fun u => u.id = id.uuid).head?).map UserRow.read =
      (s.memory.users.values.find? fun p => p.id = id).map .ok := by
  apply find?_user h
  · intro u p htells
    obtain ⟨uuid⟩ := id
    simp [htells.id]
  · intro u hu v hv hqu hqv
    simp only [decide_eq_true_eq] at hqu hqv
    exact List.inj_on_of_nodup_map s.accounts.userIds hu hv (hqu.trans hqv.symm)

theorem find?_email (email : String) :
    ((s.accounts.users.filter fun u => u.email = email).head?).map UserRow.read =
      (s.memory.findByEmail? email).map .ok := by
  apply find?_user h
  · intro u p htells
    simp [htells.email]
  · intro u hu v hv hqu hqv
    simp only [decide_eq_true_eq] at hqu hqv
    exact List.inj_on_of_nodup_map s.accounts.emails hu hv (hqu.trans hqv.symm)

/-- Both know whether somebody has an email. -/
theorem any_email (email : String) :
    (s.accounts.users.any fun u => u.email = email) = (s.memory.findByEmail? email).isSome := by
  have hfound := congrArg Option.isSome (find?_email h email)
  rwa [Option.isSome_map, Option.isSome_map, List.head?_filter, List.isSome_find?] at hfound

/-- Both count the same sub-accounts. -/
theorem subAccounts_eq (o : OrganizationId) :
    AccountServer.subAccounts s.accounts o = (s.memory.subAccounts o).length := by
  have hq : ∀ (u : UserRow) (p : Principal), u.Tells p →
      (u.organization = o.uuid && u.role = "sub_account" : Bool) =
        (p.belongsTo o && p.role = .subAccount : Bool) := by
    intro u p htells
    obtain ⟨uuid⟩ := o
    have hrole : u.role = "sub_account" ↔ p.role = .subAccount := by
      rw [← htells.role]
      cases p.role <;> decide
    simp [Principal.belongsTo, beq_eq_decide, htells.organization, hrole]
  have hlength := (filter_users h hq).length_eq
  rw [List.length_map, List.length_map] at hlength
  rw [AccountServer.subAccounts, hlength, Directory.subAccounts, Directory.members,
    List.filter_filter]
  congr 1
  exact List.filter_congr fun p _ => Bool.and_comm _ _

/-- One user comes before another one, where both have been read. -/
def InTurn (x y : Except StoreError Principal) : Prop :=
  ∃ p q, x = .ok p ∧ y = .ok q ∧ Directory.comesBefore p q = true

omit h in
/-- No two users have one email, so they come in one order only. -/
theorem eq_of_inTurn (hsound : s.memory.Sound) {p q : Principal} (hp : p ∈ s.memory.users.values)
    (hq : q ∈ s.memory.users.values) (h : InTurn (.ok p) (.ok q)) (h' : InTurn (.ok q) (.ok p)) :
    p = q := by
  obtain ⟨_, _, ⟨⟩, ⟨⟩, hbefore⟩ := h
  obtain ⟨_, _, ⟨⟩, ⟨⟩, hbefore'⟩ := h'
  apply hsound.eq_of_email_eq hp hq
  by_contra hne
  exact Principal.not_precedes_of_precedes (Directory.precedes_of_comesBefore hbefore hne)
    (Directory.precedes_of_comesBefore hbefore' (Ne.symm hne))

/-- Both list the same members in the same order. -/
theorem map_read_members (hsound : s.memory.Sound) (o : OrganizationId) :
    ((s.accounts.users.filter fun u => u.organization = o.uuid).mergeSort
      UserRow.comesBefore).map UserRow.read = (s.memory.membersInOrder o).map .ok := by
  have hq : ∀ (u : UserRow) (p : Principal), u.Tells p →
      decide (u.organization = o.uuid) = p.belongsTo o := by
    intro u p htells
    obtain ⟨uuid⟩ := o
    simp [Principal.belongsTo, beq_eq_decide, htells.organization]
  have hperm := ((List.mergeSort_perm _ UserRow.comesBefore).map UserRow.read).trans
    ((filter_users h hq).trans ((List.mergeSort_perm _ Directory.comesBefore).symm.map Except.ok))
  have hmembers : ∀ p ∈ s.memory.membersInOrder o, p ∈ s.memory.users.values := fun p hp =>
    ((hsound.lists_membersInOrder o).mem_iff p).mp hp |>.1
  have hrows : ((s.accounts.users.filter fun u => u.organization = o.uuid).mergeSort
      UserRow.comesBefore).Pairwise fun u v => InTurn u.read v.read := by
    refine (UserRow.pairwise_mergeSort _).imp_of_mem fun {u v} hu hv hbefore => ?_
    obtain ⟨p, -, hp⟩ := read_row h (List.mem_filter.mp (List.mem_mergeSort.mp hu)).1
    obtain ⟨q, -, hq⟩ := read_row h (List.mem_filter.mp (List.mem_mergeSort.mp hv)).1
    have hu := UserRow.tells_of_read hp
    have hv := UserRow.tells_of_read hq
    rw [UserRow.comesBefore_eq hu.createdAt hu.email hv.createdAt hv.email] at hbefore
    exact ⟨p, q, hp, hq, hbefore⟩
  have hvalues : (s.memory.membersInOrder o).Pairwise fun p q => InTurn (.ok p) (.ok q) :=
    (List.pairwise_mergeSort Directory.comesBefore_trans Directory.comesBefore_total _).imp
      fun {p q} hbefore => ⟨p, q, rfl, rfl, hbefore⟩
  refine List.Perm.eq_of_pairwise (fun x y hx hy hxy hyx => ?_) (List.pairwise_map.mpr hrows)
    (List.pairwise_map.mpr hvalues) hperm
  obtain ⟨p, hp, rfl⟩ := List.mem_map.mp (hperm.mem_iff.mp hx)
  obtain ⟨q, hq, rfl⟩ := List.mem_map.mp hy
  rw [eq_of_inTurn hsound (hmembers p hp) (hmembers q hq) hxy hyx]

/-- The users and organizations that come in are the same again. -/
theorem same_enrolled (hmemory : s.memory.InOrder) {a' : Accounts} {u : UserRow}
    {founded : Option OrganizationRow} {p : Principal} (henrolled : Enrolled s.accounts a' u founded)
    (hread : u.read = .ok p) {organizations : Keyed OrganizationId Organization}
    (horganizations : organizations = founded.elim s.memory.organizations fun r =>
      s.memory.organizations.put r.organization.id r.organization) :
    Same ⟨Directory.file { s.memory with organizations } p, a'⟩ := by
  have htells := UserRow.tells_of_read hread
  -- no row has the id, so nothing in memory has it, and to put somebody in takes nobody out
  have hnew : s.memory.users.find? p.id = none := by
    have hnone : s.accounts.users.filter (fun v => v.id = p.id.uuid) = [] := by
      rw [List.filter_eq_nil_iff]
      intro v hv hid
      have heq : v.id = u.id := by simpa [htells.id] using hid
      apply henrolled.newUser
      rw [← heq]
      exact List.mem_map_of_mem hv
    have hfound := find?_id h p.id
    rw [hnone, ← Keyed.find?_eq_find?_values hmemory.keyed] at hfound
    exact Option.map_eq_none_iff.mp hfound.symm
  constructor
  · change (a'.users.map UserRow.read).Perm (((s.memory.users.put p.id p).values).map .ok)
    rw [henrolled.users, List.map_cons, hread, Keyed.values, Keyed.entries_put_of_find?_eq_none hnew]
    exact h.users.cons _
  · change (a'.organizations.map OrganizationRow.organization).Perm organizations.values
    rw [henrolled.organizations, horganizations]
    cases founded with
    | none => exact h.organizations
    | some r =>
      have hnewOrganization : s.memory.organizations.find? r.organization.id = none := by
        have hfound := find?_organization h r.organization.id
        have hnone : AccountServer.organization? s.accounts r.organization.id = none :=
          AccountServer.organization?_eq_none_iff.mpr (henrolled.newOrganization r rfl)
        rw [hnone, ← Keyed.find?_eq_find?_values hmemory.named] at hfound
        exact hfound.symm
      change (r.organization :: s.accounts.organizations.map _).Perm (Keyed.values (Keyed.put _ _ _))
      rw [Keyed.values, Keyed.entries_put_of_find?_eq_none hnewOrganization]
      exact h.organizations.cons _

end

/-! ## Turns at both -/

/-- What a turn asks of the database. -/
def asking [TransactionManager] : (t : Directory.Turn) → DatabaseProgram (Except StoreError t.Answer)
  | .insert p _ => Users.answerInsert p
  | .call c => Users.answer c

/-- What the clock of the database shows in a turn. Only a new organization gets its time from
there. -/
def clock : Directory.Turn → Instant
  | .insert _ now => now
  | .call (.createOrganization _ _ _ new) | .call (.provisionOwner _ _ new) => new.createdAt
  | .call _ => .epoch

/-- One turn at the database. A transaction that is left open is rolled back. -/
def serve [TransactionManager] (a : Accounts) (t : Directory.Turn) :
    Option (Except StoreError t.Answer) × Accounts :=
  let (reply, db) := (asking t).run (AccountServer.answer (clock t)) ⟨a, none⟩
  (reply, db.begun.getD db.accounts)

/-- The times that a turn brings with it. -/
def instants : Directory.Turn → List Instant
  | .insert _ now => [now]
  | .call (.createOrganization _ _ _ new) | .call (.provisionOwner _ _ new) =>
    [new.createdAt, new.ownerCreatedAt]
  | .call (.addUser _ _ _ new) => [new.createdAt]
  | .call _ => []

/-- The turn is one that the database can take: no statement fails, and all times are instants
in whole microseconds. A leap second is no instant. Somebody whose id or email is taken cannot
be put in by hand then, since the statement that does it fails. -/
structure Admissible [TransactionManager] (s : Directories) (t : Directory.Turn) : Prop where
  noneFails : NoneFails (AccountServer.answer (clock t)) (asking t) ⟨s.accounts, none⟩
  precise : ∀ i ∈ instants t, Precise i
  written : ∀ p now, t = .insert p now → ∃ i, Precise i ∧ p.createdAt = .ofInstant i

/-- Both after one turn more. -/
def turn [TransactionManager] (s : Directories) (t : Directory.Turn) : Directories :=
  ⟨(s.memory.turn t).2, (serve s.accounts t).2⟩

/-- Both give the same result, and hold the same afterwards. -/
structure Agree [TransactionManager] (s : Directories) (t : Directory.Turn) : Prop where
  answer : (serve s.accounts t).1 = some (s.memory.turn t).1
  same : (s.turn t).Same

section

variable {s : Directories}

theorem agree_of_run [TransactionManager] {t : Directory.Turn} {a' : Accounts}
    (hrun : (asking t).run (AccountServer.answer (clock t)) ⟨s.accounts, none⟩ =
      (some (s.memory.turn t).1, ⟨a', none⟩))
    (hsame : Same ⟨(s.memory.turn t).2, a'⟩) : Agree s t := by
  have hserve : serve s.accounts t = (some (s.memory.turn t).1, a') := by
    rw [serve, hrun]
    rfl
  refine ⟨by rw [hserve], ?_⟩
  rw [turn, hserve]
  exact hsame

theorem mapM_of_map {ε α β : Type} {f : α → Except ε β} {l : List α} {l' : List β}
    (h : l.map f = l'.map .ok) : l.mapM f = .ok l' := by
  have hid : l.mapM f = (l.map f).mapM id := by
    rw [List.mapM_map]
    rfl
  rw [hid, h, List.mapM_map]
  exact List.mapM_pure (f := id) |>.trans (by rw [List.map_id]; rfl)

variable [TransactionManager] (h : s.Same) (hmemory : s.memory.InOrder)

include h hmemory

/-! ### Reading -/

theorem agree_findById {id : UserId} (ht : Admissible s (.call (.findById id))) :
    Agree s (.call (.findById id)) := by
  have hrun := AccountServer.run_optionalUser (fun _ => rfl) rfl (noneFails_connected rfl ht.noneFails)
  rw [UserRow.readFound_of_map (find?_id h id), ← Keyed.find?_eq_find?_values hmemory.keyed] at hrun
  exact agree_of_run (run_connected rfl hrun) h

omit hmemory in
theorem agree_findByEmail {email : String} (ht : Admissible s (.call (.findByEmail email))) :
    Agree s (.call (.findByEmail email)) := by
  have hrun := AccountServer.run_optionalUser (fun _ => rfl) rfl (noneFails_connected rfl ht.noneFails)
  rw [UserRow.readFound_of_map (find?_email h email)] at hrun
  exact agree_of_run (run_connected rfl hrun) h

theorem agree_listByOrganization {o : OrganizationId}
    (ht : Admissible s (.call (.listByOrganization o))) : Agree s (.call (.listByOrganization o)) := by
  have hrun := AccountServer.run_listByOrganization (noneFails_connected rfl ht.noneFails)
  rw [mapM_of_map (map_read_members h hmemory.toSound o)] at hrun
  exact agree_of_run (run_connected rfl hrun) h

/-! ### Writing -/

omit [TransactionManager] in
/-- The organization that comes in with somebody is the same in both. -/
theorem home_eq (p : Principal) (now : Instant) :
    (match s.memory.organizations.find? p.organization with
      | some _ => s.memory.organizations
      | none => s.memory.organizations.put p.organization (.fresh p.organization "" now)) =
    (AccountServer.homeFor s.accounts p now).elim s.memory.organizations fun r =>
      s.memory.organizations.put r.organization.id r.organization := by
  rw [Keyed.find?_eq_find?_values hmemory.named, ← find?_organization h, AccountServer.homeFor]
  cases AccountServer.organization? s.accounts p.organization <;> rfl

theorem agree_insert {p : Principal} {now : Instant} (ht : Admissible s (.insert p now)) :
    Agree s (.insert p now) := by
  obtain ⟨i, hi, hp⟩ := ht.written p now rfl
  obtain ⟨a', hrun, henrolled⟩ :=
    AccountServer.run_insert hi hp (AccountServer.noneFails_transaction ht.noneFails)
  have hfree : s.memory.findByEmail? p.email = none := by
    rw [← Option.isNone_iff_eq_none, ← Option.not_isSome, ← any_email h]
    simpa [UserRow.of] using henrolled.newEmail
  have hothers : ¬ (s.memory.users.values.any fun q => q.email = p.email && q.id ≠ p.id) = true := by
    intro htaken
    obtain ⟨q, hq, htest⟩ := List.any_eq_true.mp htaken
    have hnot := List.find?_eq_none.mp hfree q hq
    simp_all
  have hturn : s.memory.turn (.insert p now) = (.ok (), _) := if_neg hothers
  apply agree_of_run
  · rw [hturn]
    exact AccountServer.run_transaction hrun
  · rw [hturn]
    exact same_enrolled h hmemory henrolled (UserRow.read_of hp) (home_eq h hmemory p now)

/-- What both do for a new organization, under either name. -/
theorem run_createOrganization {name email ownerName : String} {new : NewOrganization}
    (hprecise : Precise new.ownerCreatedAt)
    (hnone : NoneFails (AccountServer.answer new.createdAt)
      (connected "begin_transaction" (Users.createOrganization name email ownerName new))
      ⟨s.accounts, none⟩) :
    ∃ a', (connected "begin_transaction" (Users.createOrganization name email ownerName new)).run
        (AccountServer.answer new.createdAt) ⟨s.accounts, none⟩ =
      (some (s.memory.createOrganization name email ownerName new).1, ⟨a', none⟩) ∧
      Same ⟨(s.memory.createOrganization name email ownerName new).2, a'⟩ := by
  rw [Users.createOrganization_eq] at hnone ⊢
  unfold Directory.createOrganization
  have htaken := any_email h email
  cases hfind : s.memory.findByEmail? email with
  | some q =>
    rw [hfind] at htaken
    exact ⟨s.accounts, AccountServer.run_taken htaken hnone, h⟩
  | none =>
    rw [hfind] at htaken
    obtain ⟨hfounding, hsame⟩ := AccountServer.run_free htaken hnone
    obtain ⟨a', hrun, henrolled⟩ := AccountServer.run_founding hprecise hfounding
    refine ⟨a', AccountServer.run_transaction (hsame.trans hrun), ?_⟩
    exact same_enrolled h hmemory henrolled (UserRow.read_of rfl) rfl

theorem agree_createOrganization {name email ownerName : String} {new : NewOrganization}
    (ht : Admissible s (.call (.createOrganization name email ownerName new))) :
    Agree s (.call (.createOrganization name email ownerName new)) := by
  obtain ⟨a', hrun, hsame⟩ :=
    run_createOrganization h hmemory (ht.precise _ (by simp [instants])) ht.noneFails
  exact agree_of_run hrun hsame

theorem agree_provisionOwner {email name : String} {new : NewOrganization}
    (ht : Admissible s (.call (.provisionOwner email name new))) :
    Agree s (.call (.provisionOwner email name new)) := by
  obtain ⟨a', hrun, hsame⟩ := run_createOrganization h hmemory
    (ht.precise _ (by simp [instants])) (noneFails_of_andThen ht.noneFails).1
  refine agree_of_run ?_ hsame
  change (Program.andThen _ _).run _ _ = _
  rw [Program.run_andThen, clock, hrun]
  change _ = (some ((s.memory.createOrganization name email name new).1.map (·.2)), _)
  cases (s.memory.createOrganization name email name new).1 <;> rfl

omit [TransactionManager] h hmemory in
/-- The quota of an organization is the same number in both. -/
theorem toNat_maxSubAccounts {o : OrganizationId} {r : OrganizationRow}
    (hfind : AccountServer.organization? s.accounts o = some r) :
    (r.organization.maxSubAccounts.toNat : Int) = r.maxSubAccounts.toInt := by
  have hquota := Int32.le_iff_toInt_le.mp (s.accounts.quotas r (List.mem_of_find?_eq_some hfind))
  have hsmall := r.maxSubAccounts.toInt_lt
  change ((UInt32.ofNat r.maxSubAccounts.toInt.toNat).toNat : Int) = _
  change 0 ≤ r.maxSubAccounts.toInt at hquota
  rw [UInt32.toNat_ofNat_of_lt' (by unfold UInt32.size; omega)]
  omega

theorem agree_addUser {o : OrganizationId} {email name : String} {new : NewUser}
    (ht : Admissible s (.call (.addUser o email name new))) :
    Agree s (.call (.addUser o email name new)) := by
  have hnone : NoneFails (AccountServer.answer .epoch) (connected "begin_transaction"
      (transaction "begin_transaction" do
        Users.ensureEmailFree email
        Users.joining o email name new)) ⟨s.accounts, none⟩ := ht.noneFails
  have htaken := any_email h email
  have horganization := find?_organization h o
  rw [← Keyed.find?_eq_find?_values hmemory.named] at horganization
  suffices hrun : ∃ a', (connected "begin_transaction" (Users.addUser o email name new)).run
      (AccountServer.answer .epoch) ⟨s.accounts, none⟩ =
        (some (s.memory.addUser o email name new).1, ⟨a', none⟩) ∧
      Same ⟨(s.memory.addUser o email name new).2, a'⟩ by
    obtain ⟨a', hrun, hsame⟩ := hrun
    exact agree_of_run hrun hsame
  rw [Users.addUser_eq]
  unfold Directory.addUser
  cases hfind : s.memory.findByEmail? email with
  | some q =>
    rw [hfind] at htaken
    exact ⟨s.accounts, AccountServer.run_taken htaken hnone, h⟩
  | none =>
    rw [hfind] at htaken
    obtain ⟨hjoining, hrest⟩ := AccountServer.run_free htaken hnone
    cases hrow : AccountServer.organization? s.accounts o with
    | none =>
      rw [hrow] at horganization
      rw [← horganization]
      have habsent := AccountServer.run_joining_absent hrow hjoining
      exact ⟨s.accounts, AccountServer.run_transaction_error (hrest.trans habsent), h⟩
    | some r =>
      rw [hrow] at horganization
      rw [← horganization]
      obtain ⟨hadmitting, hcounted⟩ := AccountServer.run_joining_found hrow hjoining
      -- whole numbers of four and eight octets on one side, natural numbers on the other
      have hquota := toNat_maxSubAccounts hrow
      have hcount := subAccounts_eq h o
      rcases AccountServer.run_admitting (ht.precise _ (by simp [instants])) hadmitting with
        ⟨hfull, hrun⟩ | ⟨hroom, a', hrun, henrolled⟩
      · simp only [Option.map_some]
        rw [if_pos (by omega), ← hcount]
        exact ⟨s.accounts, AccountServer.run_transaction_error (hrest.trans (hcounted.trans hrun)), h⟩
      · simp only [Option.map_some]
        rw [if_neg (by omega)]
        refine ⟨a', AccountServer.run_transaction (hrest.trans (hcounted.trans hrun)), ?_⟩
        exact same_enrolled h hmemory henrolled (UserRow.read_of rfl) rfl

/-- One turn keeps the directories in step. -/
theorem agree_turn {t : Directory.Turn} (ht : Admissible s t) : Agree s t := by
  cases t with
  | insert p now => exact agree_insert h hmemory ht
  | call c =>
    cases c with
    | findById id => exact agree_findById h hmemory ht
    | findByEmail email => exact agree_findByEmail h ht
    | listByOrganization o => exact agree_listByOrganization h hmemory ht
    | createOrganization name email ownerName new => exact agree_createOrganization h hmemory ht
    | addUser o email name new => exact agree_addUser h hmemory ht
    | provisionOwner email name new => exact agree_provisionOwner h hmemory ht

end

/-! ## Turn after turn -/

/-- Both after turns that the database can take, the first of them with nothing in either. -/
inductive Reached [TransactionManager] : List Directory.Turn → Directories → Prop
  | start : Reached [] ⟨.empty, .empty⟩
  | turn {past : List Directory.Turn} {s : Directories} {t : Directory.Turn} (h : Reached past s)
      (ht : Admissible s t) : Reached (past ++ [t]) (s.turn t)

theorem same_of_reached [TransactionManager] {past : List Directory.Turn} {s : Directories}
    (h : Reached past s) : s.Same ∧ s.memory.InOrder := by
  induction h with
  | start => exact ⟨⟨.nil, .nil⟩, Directory.inOrder_empty⟩
  | turn h ht ih => exact ⟨(agree_turn ih.1 ih.2 ht).same, Directory.inOrder_turn ih.2 _⟩

/-- After turns of any kind both directories hold the same users and organizations. They give
the same result to one turn more, be it a value or a failure with its text, and hold the same
after it. -/
theorem directories_tell_the_same [TransactionManager] {past : List Directory.Turn}
    {s : Directories} {t : Directory.Turn} (h : Reached past s) (ht : Admissible s t) :
    s.Same ∧ (serve s.accounts t).1 = some (s.memory.turn t).1 ∧ (s.turn t).Same := by
  obtain ⟨hsame, hmemory⟩ := same_of_reached h
  have hagree := agree_turn hsame hmemory ht
  exact ⟨hsame, hagree.answer, hagree.same⟩

section

open TransactionManager.CountingFirst

/-- A first login, from which an organization comes. -/
def provisioning : Directory.Turn :=
  .call (.provisionOwner "olive@acme.org" "Olive" ⟨⟨.ofNat 1⟩, .epoch, ⟨.ofNat 2⟩, .epoch⟩)

/-- A user with an override, in an organization that nobody has created. -/
def inserting : Directory.Turn :=
  .insert ⟨⟨.ofNat 3⟩, ⟨.ofNat 4⟩, "sam@initech.org", "Sam", .admin, .ofList ["invite:create"],
    .ofInstant .epoch⟩ .epoch

theorem directories_tell_the_same_of_two_organizations :
    Reached [provisioning] (turn ⟨.empty, .empty⟩ provisioning) ∧
    Admissible (turn ⟨.empty, .empty⟩ provisioning) inserting ∧
    (serve (turn ⟨.empty, .empty⟩ provisioning).accounts inserting).1 = some (.ok ()) ∧
    (turn (turn ⟨.empty, .empty⟩ provisioning) inserting).Same := by
  have hprovisioning : Admissible ⟨.empty, .empty⟩ provisioning :=
    ⟨by decide, by decide, fun _ _ h => by cases h⟩
  have hinserting : Admissible (turn ⟨.empty, .empty⟩ provisioning) inserting := by
    refine ⟨by decide, by decide, ?_⟩
    rintro p now ⟨⟩
    exact ⟨.epoch, by decide, rfl⟩
  have hreached := Reached.turn .start hprovisioning
  obtain ⟨-, hanswer, hsame⟩ := directories_tell_the_same hreached hinserting
  exact ⟨hreached, hinserting, hanswer, hsame⟩

end

end Directories

end TenantAuth.Postgres
