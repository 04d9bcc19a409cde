-- Quotas hold among rivals. From when a call has locked the row of its organization until its
-- transaction ends, nobody else adds to that organization, so the count that it has read still
-- holds when it commits. What it inserts clashes with nothing that anybody else commits.

import TenantAuth.Proofs.Postgres.Concurrency

namespace TenantAuth.Postgres

/-! ## Rows that come in -/

namespace Tables

/-- How many sub-accounts there are in an organization. -/
def subAccounts (db : Tables) (o : Uuid) : Nat :=
  (db.users.filter fun u => u.organization = o && u.role = "sub_account").length

theorem subAccounts_withUsers_of_ne {db : Tables} {rows : List UserRow} {o : Uuid}
    (h : ∀ u ∈ rows, u.organization ≠ o) : (db.withUsers rows).subAccounts o = db.subAccounts o := by
  have hnone : rows.filter (fun u => u.organization = o && u.role = "sub_account") = [] := by
    rw [List.filter_eq_nil_iff]
    intro u hu
    simp [h u hu]
  simp [subAccounts, withUsers, hnone]

theorem subAccounts_withUsers_singleton_le (db : Tables) (u : UserRow) (o : Uuid) :
    (db.withUsers [u]).subAccounts o ≤ db.subAccounts o + 1 := by
  simp only [subAccounts, withUsers, List.singleton_append, List.filter_cons]
  split <;> simp

theorem withUsers_inj {db : Tables} {rows rows' : List UserRow}
    (h : db.withUsers rows = db.withUsers rows') : rows = rows' :=
  List.append_cancel_right (congrArg Tables.users h)

/-- What two transactions have inserted goes together, if they have inserted no key both. -/
theorem lawful_withUsers_withUsers {db : Tables} {rows rows' : List UserRow}
    (h : (db.withUsers rows).Lawful) (h' : (db.withUsers rows').Lawful)
    (hids : (rows'.map (·.id)).Disjoint (rows.map (·.id)))
    (hemails : (rows'.map (·.email)).Disjoint (rows.map (·.email))) :
    ((db.withUsers rows).withUsers rows').Lawful := by
  have hnodup : ∀ {α : Type} (key : UserRow → α), ((db.withUsers rows).users.map key).Nodup →
      ((db.withUsers rows').users.map key).Nodup → (rows'.map key).Disjoint (rows.map key) →
      (((db.withUsers rows).withUsers rows').users.map key).Nodup := by
    intro α key hrows hrows' hdisjoint
    simp only [withUsers, List.map_append, List.nodup_append'] at hrows hrows' ⊢
    exact ⟨hrows'.1, hrows, List.disjoint_append_right.mpr ⟨hdisjoint, hrows'.2.2⟩⟩
  have hall : ∀ {q : UserRow → Prop}, (∀ u ∈ (db.withUsers rows).users, q u) →
      (∀ u ∈ (db.withUsers rows').users, q u) →
      ∀ u ∈ ((db.withUsers rows).withUsers rows').users, q u := by
    intro q hrows hrows' u hu
    rcases List.mem_append.mp hu with hu | hu
    · exact hrows' u (List.mem_append_left _ hu)
    · exact hrows u hu
  exact ⟨h.organizationIds, h.quotas, hnodup _ h.userIds h'.userIds hids,
    hnodup _ h.emails h'.emails hemails, hall h.homes h'.homes, hall h.roles h'.roles⟩

end Tables

/-- The row is that of the user, with the time as the database keeps it. -/
def UserRow.Keeps (u : UserRow) (p : Principal) : Prop :=
  ∃ createdAt, Cell.ofTimestamp p.createdAt = .time createdAt ∧ u = .of p createdAt

namespace Transaction

theorem apart_of_nothing {t t' : Transaction} (hinserted : t.inserted = []) (hlocked : t.locked = []) :
    t.Apart t' := by
  refine ⟨?_, ?_, ?_⟩
  · rw [hlocked]
    exact List.disjoint_nil_left _
  · rw [hinserted]
    exact List.disjoint_nil_left _
  · rw [hinserted]
    exact List.disjoint_nil_left _

theorem Apart.symm {t t' : Transaction} (h : t.Apart t') : t'.Apart t :=
  ⟨List.disjoint_comm.mp h.locked, List.disjoint_comm.mp h.ids, List.disjoint_comm.mp h.emails⟩

/-- A refusal takes nothing from anybody. -/
theorem Spoilt.cases {t t' : Transaction} (h : t.Spoilt t') :
    t' = t ∨ (t'.inserted = [] ∧ t'.locked = []) := by
  rcases h with rfl | rfl | rfl | rfl
  · exact Or.inl rfl
  all_goals exact Or.inr ⟨rfl, rfl⟩

/-- To give up a transaction is to end it: no call has set a savepoint. -/
theorem ended_of_givesUp {db : Tables} {now : Instant} {t t' : Transaction} {s : Statement}
    {o : Outcome} {made : List UserRow} (hs : s.givesUp = true)
    (h : t.carriedOut? db now s = some (o, t', made)) : t' = .idle ∧ made = [] := by
  rcases Statement.givesUp_iff.mp hs with rfl | rfl
  · cases t <;> cases h
    all_goals exact ⟨rfl, rfl⟩
  · cases t with
    | running inserted locked =>
      obtain ⟨-, view, view', rows, -, hcarry, -⟩ := carriedOut?_running rfl h
      cases hcarry
    | idle | failed | cut => cases h

end Transaction

namespace Joining

open Place Progress

/-! ## What stands behind each place -/

/-- The transaction of a call has inserted these rows, and it has locked the row of the
organization. -/
structure Holding (db : Tables) (j : Joining) (t : Transaction) (r : OrganizationRow)
    (rows : List UserRow) : Prop where
  row : r ∈ db.organizations
  id : r.id = j.organization.uuid
  running : ∃ locked, t = .running rows locked ∧ r.id ∈ locked

/-- There is a place left in the organization. -/
def Room (db : Tables) (r : OrganizationRow) : Prop :=
  (db.subAccounts r.id : Int) < r.maxSubAccounts.toInt

/-- What the server holds for a call that waits there, unless it has ended the transaction. -/
def Held (db : Tables) (j : Joining) (t : Transaction) : Place → Prop
  | beginning => t = .idle
  | checking | locking => t = .running [] []
  | counting limit => ∃ r, Holding db j t r [] ∧ limit = r.maxSubAccounts
  | inserting => ∃ r, Holding db j t r [] ∧ Room db r
  | committing => ∃ r u, Holding db j t r [u] ∧ u.Keeps j.member ∧ Room db r
  | givingUp .. => True

/-- What stands behind a call that has come so far and has committed these rows. -/
def Backed (db : Tables) (j : Joining) (t : Transaction) (made : List UserRow) : Progress → Prop
  | connecting => made = [] ∧ (t = .cut ∨ t = .idle)
  | waiting place => made = [] ∧ (t = .cut ∨ Held db j t place)
  | ended (.ok p) => p = j.member ∧ ∃ u, u.Keeps p ∧ made = [u]
  | ended (.error _) => made = []

theorem Holding.locked {db : Tables} {j : Joining} {t : Transaction} {r : OrganizationRow}
    {rows : List UserRow} (h : Holding db j t r rows) : r.id ∈ t.locked := by
  obtain ⟨locked, rfl, hmem⟩ := h.running
  exact hmem

theorem room_withUsers {db : Tables} {r : OrganizationRow} {made : List UserRow}
    (hmade : ∀ u ∈ made, u.organization ≠ r.id) (h : Room db r) : Room (db.withUsers made) r := by
  rwa [Room, Tables.subAccounts_withUsers_of_ne hmade]

/-- What is added to organizations that a call has not locked does not matter to it. -/
theorem held_withUsers {db : Tables} {j : Joining} {t : Transaction} {place : Place}
    {made : List UserRow} (hmade : ∀ u ∈ made, u.organization ∉ t.locked) (h : Held db j t place) :
    Held (db.withUsers made) j t place := by
  have hne : ∀ {r : OrganizationRow} {rows : List UserRow}, Holding db j t r rows →
      ∀ u ∈ made, u.organization ≠ r.id := fun hholding u hu heq =>
    hmade u hu (heq ▸ hholding.locked)
  have hholding : ∀ {r : OrganizationRow} {rows : List UserRow}, Holding db j t r rows →
      Holding (db.withUsers made) j t r rows := fun h => ⟨h.row, h.id, h.running⟩
  cases place with
  | beginning | checking | locking | givingUp => exact h
  | counting limit =>
    obtain ⟨r, hr, hlimit⟩ := h
    exact ⟨r, hholding hr, hlimit⟩
  | inserting =>
    obtain ⟨r, hr, hroom⟩ := h
    exact ⟨r, hholding hr, room_withUsers (hne hr) hroom⟩
  | committing =>
    obtain ⟨r, u, hr, hkeeps, hroom⟩ := h
    exact ⟨r, u, hholding hr, hkeeps, room_withUsers (hne hr) hroom⟩

theorem backed_withUsers {db : Tables} {j : Joining} {t : Transaction} {rows made : List UserRow}
    {progress : Progress} (hmade : ∀ u ∈ made, u.organization ∉ t.locked)
    (h : Backed db j t rows progress) : Backed (db.withUsers made) j t rows progress := by
  cases progress with
  | connecting => exact h
  | waiting place => exact ⟨h.1, h.2.imp_right (held_withUsers hmade)⟩
  | ended answer => cases answer <;> exact h

theorem backed_leaving {db : Tables} {j : Joining} {t : Transaction} {e : StoreError}
    {statements : List Statement} {h : ∀ s ∈ statements, s.givesUp = true} :
    Backed db j t [] (leaving e statements h) := by
  cases statements with
  | nil => rfl
  | cons s more => exact ⟨rfl, Or.inr trivial⟩

/-! ## Statements that are carried out -/

/-- What a statement leads to that is carried out for a call: the next place is backed, and
what the transaction sees violates no constraint. If something is committed, that is the one
row of the call, and there was room for it. -/
structure Carried (db : Tables) (j : Joining) (t t' : Transaction) (made : List UserRow)
    (progress : Progress) : Prop where
  seen : ((db.withUsers made).withUsers t'.inserted).Lawful
  backed : Backed (db.withUsers made) j t' made progress
  room : made = [] ∨ ∃ r u, Holding db j t r [u] ∧ u.Keeps j.member ∧ Room db r ∧ made = [u]

section

variable [TransactionManager] {db : Tables} {j : Joining} {t t' : Transaction} {now : Instant}
  {o : Outcome} {made : List UserRow}

theorem carried_beginning (hdb : db.Lawful)
    (h : Transaction.carriedOut? db now .idle .begin = some (o, t', made)) :
    Carried db j .idle t' made (j.after beginning (.ok o)) := by
  cases h
  exact ⟨hdb, ⟨rfl, Or.inr rfl⟩, Or.inl rfl⟩

theorem carried_givingUp {e : StoreError} {s : Statement} {more : List Statement}
    {hs : ∀ s' ∈ s :: more, s'.givesUp = true} (hdb : db.Lawful)
    (h : t.carriedOut? db now s = some (o, t', made)) :
    Carried db j t t' made (j.after (givingUp e s more hs) (.ok o)) := by
  obtain ⟨rfl, rfl⟩ := Transaction.ended_of_givesUp (hs s List.mem_cons_self) h
  exact ⟨hdb, backed_leaving, Or.inl rfl⟩

theorem carried_committing {r : OrganizationRow} {u : UserRow}
    (hseen : (db.withUsers t.inserted).Lawful) (hholding : Holding db j t r [u])
    (hkeeps : u.Keeps j.member) (hroom : Room db r)
    (h : t.carriedOut? db now .commit = some (o, t', made)) :
    Carried db j t t' made (j.after committing (.ok o)) := by
  obtain ⟨locked, rfl, -⟩ := hholding.running
  cases h
  exact ⟨hseen, ⟨rfl, u, hkeeps, rfl⟩, Or.inr ⟨r, u, hholding, hkeeps, hroom, rfl⟩⟩

omit [TransactionManager] in
/-- A statement that only reads, and what it locks. -/
theorem running_of_reading {inserted : List UserRow} {locked : List Uuid} {s : Statement}
    {reply : Accounts → Except Failure Outcome} (hs : s.bounds = false)
    (hreads : ∀ a : Accounts, a.carryOut now s = (reply a, a))
    (h : Transaction.carriedOut? db now (.running inserted locked) s = some (o, t', made)) :
    made = [] ∧ t' = .running inserted (db.locks s ++ locked) ∧
      ∃ view, Tables.ofAccounts view = db.withUsers inserted ∧ reply view = .ok o := by
  obtain ⟨hmade, view, view', rows, hview, hcarry, hrows, ht'⟩ :=
    Transaction.carriedOut?_running hs h
  rw [hreads] at hcarry
  obtain ⟨hreply, rfl⟩ := Prod.mk.inj hcarry
  obtain rfl := Tables.withUsers_inj (hview.symm.trans hrows)
  exact ⟨hmade, ht', view, hview, hreply⟩

theorem carried_checking (hdb : db.Lawful)
    (h : Transaction.carriedOut? db now (.running [] []) (.emailTaken j.email) = some (o, t', made)) :
    Carried db j (.running [] []) t' made (j.after checking (.ok o)) := by
  obtain ⟨rfl, rfl, view, -, hreply⟩ := running_of_reading rfl (fun _ => rfl) h
  cases hreply
  refine ⟨hdb, ?_, Or.inl rfl⟩
  cases htaken : view.users.any fun u => u.email = j.email with
  | true => exact ⟨rfl, Or.inr trivial⟩
  | false => exact ⟨rfl, Or.inr rfl⟩

theorem carried_locking (hdb : db.Lawful)
    (h : Transaction.carriedOut? db now (.running [] []) (.lockOrganization j.organization) =
      some (o, t', made)) :
    Carried db j (.running [] []) t' made (j.after locking (.ok o)) := by
  obtain ⟨rfl, rfl, view, hview, hreply⟩ := running_of_reading rfl (fun _ => rfl) h
  cases hreply
  refine ⟨hdb, ?_, Or.inl rfl⟩
  have horganizations : view.organizations = db.organizations := congrArg Tables.organizations hview
  cases hfound : view.organizations.filter fun r => r.id = j.organization.uuid with
  | nil => exact ⟨rfl, Or.inr trivial⟩
  | cons r rs =>
    have hr : r ∈ view.organizations.filter fun r => r.id = j.organization.uuid := by
      rw [hfound]
      exact List.mem_cons_self
    rw [horganizations, List.mem_filter, decide_eq_true_eq] at hr
    refine ⟨rfl, Or.inr ⟨r, ⟨hr.1, hr.2, _, rfl, ?_⟩, rfl⟩⟩
    simp only [Tables.locks, List.append_nil, List.mem_filter, decide_eq_true_eq]
    exact ⟨List.mem_map_of_mem hr.1, hr.2⟩

theorem carried_counting {r : OrganizationRow} (hdb : db.Lawful) (hholding : Holding db j t r [])
    (h : t.carriedOut? db now (.countSubAccounts j.organization) = some (o, t', made)) :
    Carried db j t t' made (j.after (counting r.maxSubAccounts) (.ok o)) := by
  obtain ⟨locked, rfl, hlocked⟩ := hholding.running
  obtain ⟨rfl, rfl, view, hview, hreply⟩ := running_of_reading rfl (fun _ => rfl) h
  obtain ⟨hsmall, rfl⟩ := Accounts.count_of_ok hreply
  refine ⟨hdb, ?_, Or.inl rfl⟩
  have husers : view.users = db.users := congrArg Tables.users hview
  have hcount : (Int64.ofNat (view.users.filter fun u =>
      u.organization = j.organization.uuid && u.role = "sub_account").length).toInt =
      db.subAccounts r.id := by
    rw [Int64.toInt_ofNat_of_lt hsmall, husers, hholding.id, Tables.subAccounts]
  change Backed _ _ _ _ (waiting (if _ then _ else _))
  rw [hcount]
  by_cases hfull : r.maxSubAccounts.toInt ≤ db.subAccounts r.id
  · rw [if_pos hfull]
    exact ⟨rfl, Or.inr trivial⟩
  · rw [if_neg hfull]
    exact ⟨rfl, Or.inr ⟨r, hholding, not_le.mp hfull⟩⟩

theorem carried_inserting {r : OrganizationRow} (hholding : Holding db j t r []) (hroom : Room db r)
    (h : t.carriedOut? db now (.insertUser j.member) = some (o, t', made)) :
    Carried db j t t' made (j.after inserting (.ok o)) := by
  obtain ⟨locked, rfl, hlocked⟩ := hholding.running
  obtain ⟨rfl, view, view', rows, hview, hcarry, hrows, rfl⟩ :=
    Transaction.carriedOut?_running rfl h
  obtain ⟨createdAt, hcreated⟩ : ∃ createdAt, Cell.ofTimestamp j.member.createdAt = .time createdAt :=
    ⟨_, rfl⟩
  simp only [Accounts.carryOut, Statement.params?, hcreated] at hcarry
  obtain ⟨-, horganizations, husers⟩ := Accounts.insertUser_of_ok hcarry
  have hview' : Tables.ofAccounts view' = (Tables.ofAccounts view).withUsers [.of j.member createdAt] := by
    simp only [Tables.ofAccounts, Tables.withUsers, horganizations, husers]
    rfl
  rw [hview, Tables.withUsers_nil] at hview'
  obtain rfl := Tables.withUsers_inj (hrows.symm.trans hview')
  refine ⟨?_, ⟨rfl, Or.inr ⟨r, _, ⟨hholding.row, hholding.id, locked, rfl, hlocked⟩,
    ⟨createdAt, hcreated, rfl⟩, hroom⟩⟩, Or.inl rfl⟩
  rw [Tables.withUsers_nil]
  exact hrows ▸ Tables.lawful_ofAccounts view'

/-- Once its transaction is ended by the server, nothing is carried out for a call. -/
theorem carried_of_backed {place : Place} {rows : List UserRow} (hdb : db.Lawful)
    (hseen : (db.withUsers t.inserted).Lawful) (hbacked : Backed db j t rows (waiting place))
    (h : t.carriedOut? db now (j.statement place) = some (o, t', made)) :
    Carried db j t t' made (j.after place (.ok o)) := by
  rcases hbacked.2 with rfl | hheld
  · cases place <;> cases h
  · cases place with
    | beginning =>
      obtain rfl := hheld
      exact carried_beginning hdb h
    | checking =>
      obtain rfl := hheld
      exact carried_checking hdb h
    | locking =>
      obtain rfl := hheld
      exact carried_locking hdb h
    | counting limit =>
      obtain ⟨r, hholding, rfl⟩ := hheld
      exact carried_counting hdb hholding h
    | inserting =>
      obtain ⟨r, hholding, hroom⟩ := hheld
      exact carried_inserting hholding hroom h
    | committing =>
      obtain ⟨r, u, hholding, hkeeps, hroom⟩ := hheld
      exact carried_committing hseen hholding hkeeps hroom h
    | givingUp e s more hs => exact carried_givingUp hdb h

end

/-! ## Every interleaving -/

/-- Where a task stands, given the rows that it has committed. -/
def Placed [TransactionManager] (db : Tables) (task : Task) (rows : List UserRow) : Prop :=
  ∃ progress, task.rest = task.joining.rest progress ∧
    Backed db task.joining task.transaction rows progress

/-- What holds after any steps: the rows are those of the start with those that the steps
committed, all together and with those of each transaction they violate no constraint, no
organization has outgrown its quota, no two transactions are in each other's way, and every
task stands where it may. -/
structure Good [TransactionManager] (a : Accounts) (calls : List Joining) (events : List Event)
    (σ : Scene) : Prop where
  asked : σ.tasks.map (·.joining) = calls
  tables : σ.tables = (Tables.ofAccounts a).withUsers (made events)
  lawful : σ.tables.Lawful
  seen : ∀ task ∈ σ.tasks, (σ.tables.withUsers task.transaction.inserted).Lawful
  quota : ∀ r ∈ a.organizations,
    ((Tables.ofAccounts a).subAccounts r.id : Int) ≤ r.maxSubAccounts.toInt →
    (σ.tables.subAccounts r.id : Int) ≤ r.maxSubAccounts.toInt
  apart : ∀ (i k : Nat) (task other : Task), i ≠ k → σ.tasks[i]? = some task → σ.tasks[k]? = some other →
    task.transaction.Apart other.transaction
  placed : ∀ i task, σ.tasks[i]? = some task → Placed σ.tables task (madeBy i events)

/-- The one thing that a step does: a task goes on, and it may have committed its row. -/
structure Advance [TransactionManager] (σ : Scene) (i : Nat) (task task' : Task)
    (rows made : List UserRow) : Prop where
  joining : task'.joining = task.joining
  admits : σ.Admits i task'.transaction
  seen : ((σ.tables.withUsers made).withUsers task'.transaction.inserted).Lawful
  placed : Placed (σ.tables.withUsers made) task' (made ++ rows)
  room : made = [] ∨ ∃ r u, Holding σ.tables task.joining task.transaction r [u] ∧
    u.Keeps task.joining.member ∧ Room σ.tables r ∧ made = [u]

section

variable {m : TransactionManager} {a : Accounts} {calls : List Joining} {events : List Event}
  {σ σ' : Scene} {e : Event}

theorem good_start (a : Accounts) (calls : List Joining) : Good a calls [] (.start a calls) where
  asked := by simp [Scene.start, Function.comp_def]
  tables := rfl
  lawful := Tables.lawful_ofAccounts a
  seen := by
    intro task htask
    obtain ⟨j, -, rfl⟩ := List.mem_map.mp htask
    exact Tables.lawful_ofAccounts a
  quota _ _ h := h
  apart := by
    intro i k task other _ htask _
    obtain ⟨j, -, rfl⟩ := List.mem_map.mp (List.mem_of_getElem? htask)
    exact Transaction.apart_of_nothing rfl rfl
  placed := by
    intro i task htask
    obtain ⟨j, -, rfl⟩ := List.mem_map.mp (List.mem_of_getElem? htask)
    exact ⟨connecting, rfl, rfl, Or.inr rfl⟩

theorem admits_of_apart {i : Nat} {task : Task} (h : Good a calls events σ)
    (htask : σ.tasks[i]? = some task) : σ.Admits i task.transaction := by
  intro other hother
  obtain ⟨k, hne, hk⟩ := List.mem_eraseIdx_iff_getElem?.mp hother
  exact h.apart i k task other (Ne.symm hne) htask hk

theorem admits_of_nothing {i : Nat} {t : Transaction} (hinserted : t.inserted = [])
    (hlocked : t.locked = []) : σ.Admits i t := fun _ _ =>
  Transaction.apart_of_nothing hinserted hlocked

/-- A step that commits nothing, and leaves the transaction as it is or with nothing. -/
theorem advance_of_spoilt {i : Nat} {task task' : Task} (h : Good a calls events σ)
    (htask : σ.tasks[i]? = some task) (hjoining : task'.joining = task.joining)
    (hplaced : Placed σ.tables task' (madeBy i events))
    (htransaction : task'.transaction = task.transaction ∨
      (task'.transaction.inserted = [] ∧ task'.transaction.locked = [])) :
    Advance σ i task task' (madeBy i events) [] := by
  refine ⟨hjoining, ?_, ?_, hplaced, Or.inl rfl⟩
  · rcases htransaction with heq | ⟨hinserted, hlocked⟩
    · rw [heq]
      exact admits_of_apart h htask
    · exact admits_of_nothing hinserted hlocked
  · rw [Tables.withUsers_nil]
    rcases htransaction with heq | ⟨hinserted, -⟩
    · rw [heq]
      exact h.seen task (List.mem_of_getElem? htask)
    · rw [hinserted]
      exact h.lawful

/-- A task that waits for a statement is at a place where it sends that. -/
theorem placed_sending {db : Tables} {j : Joining} {s : Statement} {next} {t : Transaction}
    {rows : List UserRow} (h : Placed db ⟨j, .call (.send s) next, t⟩ rows) :
    ∃ place, s = j.statement place ∧ (∀ reply, next reply = j.rest (j.after place reply)) ∧
      Backed db j t rows (waiting place) := by
  obtain ⟨progress, hrest, hbacked⟩ := h
  cases progress with
  | connecting => cases hrest.trans j.rest_connecting
  | ended answer => cases hrest
  | waiting place =>
    cases hrest.trans (j.rest_waiting place)
    exact ⟨place, rfl, fun _ => rfl, hbacked⟩

theorem advance_of_move (h : Good a calls events σ) (hmove : Move σ e σ') :
    ∃ task task', σ.tasks[e.task]? = some task ∧ σ' = σ.moved e.task task' e.made ∧
      Advance σ e.task task task' (madeBy e.task events) e.made := by
  cases hmove with
  | @connected i j next t reply htask =>
    refine ⟨_, _, htask, rfl, advance_of_spoilt h htask rfl ?_ (Or.inl rfl)⟩
    obtain ⟨progress, hrest, hbacked⟩ := h.placed i _ htask
    cases progress with
    | waiting place => cases hrest.trans (j.rest_waiting place)
    | ended answer => cases hrest
    | connecting =>
      cases hrest.trans j.rest_connecting
      cases reply with
      | ok => exact ⟨waiting beginning, rfl, hbacked⟩
      | error f => exact ⟨ended (.error _), rfl, hbacked.1⟩
  | @carriedOut i j s next t t' now o made htask hcarried hadmits =>
    obtain ⟨place, rfl, hnext, hbacked⟩ := placed_sending (h.placed i _ htask)
    have hseen := h.seen _ (List.mem_of_getElem? htask)
    have hcarry := carried_of_backed h.lawful hseen hbacked hcarried
    refine ⟨_, _, htask, rfl, rfl, hadmits, hcarry.seen, ?_, hcarry.room⟩
    rw [hbacked.1, List.append_nil]
    exact ⟨_, hnext _, hcarry.backed⟩
  | @refused i j s next t t' f htask hspoilt =>
    refine ⟨_, _, htask, rfl, advance_of_spoilt h htask rfl ?_ hspoilt.cases⟩
    obtain ⟨place, rfl, hnext, hbacked⟩ := placed_sending (h.placed i _ htask)
    refine ⟨_, hnext _, ?_⟩
    obtain ⟨e, statements, hgives, hleaving⟩ := j.after_error place f
    rw [hleaving, hbacked.1]
    exact backed_leaving
  | @cut i task htask =>
    refine ⟨_, _, htask, rfl, advance_of_spoilt h htask rfl ?_ (Or.inr ⟨rfl, rfl⟩)⟩
    obtain ⟨progress, hrest, hbacked⟩ := h.placed i _ htask
    refine ⟨progress, hrest, ?_⟩
    cases progress with
    | connecting => exact ⟨hbacked.1, Or.inl rfl⟩
    | waiting place => exact ⟨hbacked.1, Or.inl rfl⟩
    | ended answer => cases answer <;> exact hbacked

/-! What a step means for the tasks that it does not move. -/

section

variable {i k : Nat} {task task' other : Task} {rows new : List UserRow}

theorem getElem?_moved_self (htask : σ.tasks[i]? = some task) :
    (σ.moved i task' new).tasks[i]? = some task' := by
  obtain ⟨hlt, -⟩ := List.getElem?_eq_some_iff.mp htask
  exact List.getElem?_set_self hlt

/-- What is committed is all that the transaction has inserted. -/
theorem eq_inserted_of_advance (hadvance : Advance σ i task task' rows new) :
    new = [] ∨ new = task.transaction.inserted := by
  refine hadvance.room.imp_right ?_
  rintro ⟨r, u, hholding, -, -, rfl⟩
  obtain ⟨locked, hrunning, -⟩ := hholding.running
  rw [hrunning]
  rfl

/-- Nobody else has locked the organization that the task has added to. -/
theorem not_locked_of_advance (h : Good a calls events σ) (htask : σ.tasks[i]? = some task)
    (hother : σ.tasks[k]? = some other) (hne : i ≠ k) (hadvance : Advance σ i task task' rows new) :
    ∀ u ∈ new, u.organization ∉ other.transaction.locked := by
  rcases hadvance.room with rfl | ⟨r, u, hholding, ⟨createdAt, -, rfl⟩, -, rfl⟩
  · simp
  · intro u' hu' hlocked
    obtain rfl := List.mem_singleton.mp hu'
    have hmine : task.joining.organization.uuid ∈ task.transaction.locked :=
      hholding.id ▸ hholding.locked
    exact (h.apart i k task other hne htask hother).locked hmine hlocked

theorem lawful_of_advance (h : Good a calls events σ) (htask : σ.tasks[i]? = some task)
    (hadvance : Advance σ i task task' rows new) : (σ.tables.withUsers new).Lawful := by
  rcases eq_inserted_of_advance hadvance with rfl | rfl
  · exact h.lawful
  · exact h.seen task (List.mem_of_getElem? htask)

theorem seen_of_advance (h : Good a calls events σ) (htask : σ.tasks[i]? = some task)
    (hother : σ.tasks[k]? = some other) (hne : i ≠ k) (hadvance : Advance σ i task task' rows new) :
    ((σ.tables.withUsers new).withUsers other.transaction.inserted).Lawful := by
  have hseen := h.seen other (List.mem_of_getElem? hother)
  rcases eq_inserted_of_advance hadvance with rfl | rfl
  · exact hseen
  · have hapart := h.apart k i other task hne.symm hother htask
    exact Tables.lawful_withUsers_withUsers (h.seen task (List.mem_of_getElem? htask)) hseen
      hapart.ids hapart.emails

/-- An organization gains a user at most, and only where there is room. -/
theorem quota_of_advance (h : Good a calls events σ) (hadvance : Advance σ i task task' rows new)
    {r : OrganizationRow} (hr : r ∈ a.organizations)
    (hquota : (σ.tables.subAccounts r.id : Int) ≤ r.maxSubAccounts.toInt) :
    ((σ.tables.withUsers new).subAccounts r.id : Int) ≤ r.maxSubAccounts.toInt := by
  rcases hadvance.room with rfl | ⟨r', u, hholding, ⟨createdAt, -, rfl⟩, hroom, rfl⟩
  · exact hquota
  · have hr' : r' ∈ a.organizations := by
      have hrow := hholding.row
      rw [h.tables] at hrow
      exact hrow
    by_cases hid : r'.id = r.id
    · obtain rfl := List.inj_on_of_nodup_map a.organizationIds hr' hr hid
      have hone := σ.tables.subAccounts_withUsers_singleton_le (.of task.joining.member createdAt) r'.id
      unfold Room at hroom
      omega
    · have hother : ∀ u ∈ [UserRow.of task.joining.member createdAt], u.organization ≠ r.id := by
        intro u hu heq
        obtain rfl := List.mem_singleton.mp hu
        exact hid (hholding.id.trans heq)
      rw [Tables.subAccounts_withUsers_of_ne hother]
      exact hquota

end

theorem good_step (h : Good a calls events σ) (hmove : Move σ e σ') :
    Good a calls (events ++ [e]) σ' := by
  obtain ⟨task, task', htask, rfl, hadvance⟩ := advance_of_move h hmove
  obtain ⟨i, new⟩ := e
  -- every task is the one that has gone on, or it is as it was
  have hmoved : ∀ {k : Nat} {other : Task}, (σ.moved i task' new).tasks[k]? = some other →
      (k = i ∧ other = task') ∨ (k ≠ i ∧ σ.tasks[k]? = some other) := by
    intro k other hother
    by_cases hk : i = k
    · subst hk
      rw [getElem?_moved_self htask] at hother
      exact Or.inl ⟨rfl, (Option.some.inj hother).symm⟩
    · exact Or.inr ⟨Ne.symm hk, (List.getElem?_set_ne hk).symm.trans hother⟩
  refine ⟨?asked, ?tables, lawful_of_advance h htask hadvance, ?seen, ?quota, ?apart, ?placed⟩
  case asked =>
    rw [← h.asked]
    refine List.ext_getElem? fun k => ?_
    rw [List.getElem?_map, List.getElem?_map]
    by_cases hk : i = k
    · subst hk
      rw [getElem?_moved_self htask, htask, Option.map_some, Option.map_some, hadvance.joining]
    · rw [show (σ.moved i task' new).tasks[k]? = σ.tasks[k]? from List.getElem?_set_ne hk]
  case tables =>
    rw [made_snoc, Scene.moved, h.tables]
    simp [Tables.withUsers]
  case seen =>
    intro other hother
    obtain ⟨k, hk⟩ := List.mem_iff_getElem?.mp hother
    rcases hmoved hk with ⟨rfl, rfl⟩ | ⟨hne, hold⟩
    · exact hadvance.seen
    · exact seen_of_advance h htask hold hne.symm hadvance
  case quota => exact fun r hr hstart => quota_of_advance h hadvance hr (h.quota r hr hstart)
  case apart =>
    intro k l t other hne hk hl
    rcases hmoved hk with ⟨rfl, rfl⟩ | ⟨hki, hold⟩
    · rcases hmoved hl with ⟨rfl, -⟩ | ⟨hli, hother⟩
      · exact absurd rfl hne
      · exact hadvance.admits other (List.mem_eraseIdx_iff_getElem?.mpr ⟨l, hli, hother⟩)
    · rcases hmoved hl with ⟨rfl, rfl⟩ | ⟨-, hother⟩
      · exact (hadvance.admits t (List.mem_eraseIdx_iff_getElem?.mpr ⟨k, hki, hold⟩)).symm
      · exact h.apart k l t other hne hold hother
  case placed =>
    intro k other hk
    rcases hmoved hk with ⟨rfl, rfl⟩ | ⟨hne, hold⟩
    · rw [madeBy_snoc_self]
      exact hadvance.placed
    · rw [madeBy_snoc_of_ne hne.symm]
      obtain ⟨progress, hrest, hbacked⟩ := h.placed k other hold
      have hlocked := not_locked_of_advance h htask hold hne.symm hadvance
      exact ⟨progress, hrest, backed_withUsers hlocked hbacked⟩

theorem good_run (h : Run a calls events σ) : Good a calls events σ := by
  induction h with
  | nil => exact good_start a calls
  | snoc _ hmove ih => exact good_step ih hmove

end

/-! ## The laws of an interleaving -/

/-- What the call of a task has ended with. -/
def Task.answer? (task : Task) : Option (Except StoreError Principal) :=
  match task.rest with
  | .done answer => some answer
  | .broken | .call .. => none

/-- What a call has committed, once it has ended so. -/
def Settled (j : Joining) (made : List UserRow) : Except StoreError Principal → Prop
  | .ok p => p = j.member ∧ ∃ u, u.Keeps p ∧ made = [u]
  | .error _ => made = []

theorem settled_of_placed [TransactionManager] {db : Tables} {task : Task} {rows : List UserRow}
    {answer : Except StoreError Principal} (h : Placed db task rows)
    (hanswer : task.answer? = some answer) : Settled task.joining rows answer := by
  obtain ⟨progress, hrest, hbacked⟩ := h
  unfold Task.answer? at hanswer
  rw [hrest] at hanswer
  cases progress with
  | connecting => cases hanswer
  | waiting place =>
    rw [rest_waiting] at hanswer
    cases hanswer
  | ended answer' =>
    cases hanswer
    cases answer <;> exact hbacked

/-- A call commits nothing before it ends. -/
theorem made_of_placed [TransactionManager] {db : Tables} {task : Task} {rows : List UserRow}
    (h : Placed db task rows) (hanswer : task.answer? = none) : rows = [] := by
  obtain ⟨progress, hrest, hbacked⟩ := h
  cases progress with
  | connecting => exact hbacked.1
  | waiting place => exact hbacked.1
  | ended answer =>
    unfold Task.answer? at hanswer
    rw [hrest] at hanswer
    cases hanswer

/-- In every interleaving, no organization outgrows its quota that had not outgrown it at the
start; no two users share an email; and what has come in is one row for each call that ended
well, and none for any other call. -/
theorem quotas_hold_among_rivals [TransactionManager] {a : Accounts} {calls : List Joining}
    {events : List Event} {σ : Scene} (h : Run a calls events σ) :
    (∀ r ∈ a.organizations,
      ((Tables.ofAccounts a).subAccounts r.id : Int) ≤ r.maxSubAccounts.toInt →
      (σ.tables.subAccounts r.id : Int) ≤ r.maxSubAccounts.toInt) ∧
    (σ.tables.users.map (·.email)).Nodup ∧
    σ.tables = (Tables.ofAccounts a).withUsers (made events) ∧
    σ.tasks.map (·.joining) = calls ∧
    ∀ i task, σ.tasks[i]? = some task →
      (∀ answer, task.answer? = some answer → Settled task.joining (madeBy i events) answer) ∧
      (task.answer? = none → madeBy i events = []) := by
  have hgood := good_run h
  refine ⟨hgood.quota, hgood.lawful.emails, hgood.tables, hgood.asked, fun i task htask => ?_⟩
  have hplaced := hgood.placed i task htask
  exact ⟨fun answer => settled_of_placed hplaced, made_of_placed hplaced⟩

/-- Two organizations without users; the first has one place. -/
def onePlace : Accounts :=
  (Accounts.empty.addOrganization ⟨.ofNat 2, "Beta", none, "free", 5, .epoch⟩ (by decide)).addOrganization
    ⟨.ofNat 1, "Acme", none, "free", 1, .epoch⟩ (by decide)

/-- Two calls want that place, and a third one wants the email of the first. -/
def contenders : List Joining :=
  [⟨⟨.ofNat 1⟩, "ann@example.org", "Ann", ⟨⟨.ofNat 11⟩, .epoch⟩⟩,
   ⟨⟨.ofNat 1⟩, "bob@example.org", "Bob", ⟨⟨.ofNat 12⟩, .epoch⟩⟩,
   ⟨⟨.ofNat 2⟩, "ann@example.org", "Ann", ⟨⟨.ofNat 13⟩, .epoch⟩⟩]

section

open TransactionManager.CountingFirst

/-- All three check their emails before anybody locks. The second call waits for the lock of
the first, and the third for its row. -/
def contest : List Event × Scene :=
  play onePlace contenders .epoch
    [0, 1, 2, 0, 1, 2, 0, 1, 2, 0, 1, 2, 0, 2, 0, 1, 2, 0, 1, 1, 1, 2]

theorem the_last_place_goes_to_one :
    Run onePlace contenders contest.1 contest.2 ∧
      contest.1.map (·.task) = [0, 1, 2, 0, 1, 2, 0, 1, 2, 0, 2, 0, 2, 0, 0, 1, 1, 1] ∧
      contest.2.tasks.map (fun task => task.answer?.map Except.isOk) = [some true, some false, none] ∧
      contest.2.tables.subAccounts (.ofNat 1) = 1 ∧
      (contest.2.tables.subAccounts (.ofNat 1) : Int) ≤ 1 ∧
      (contest.2.tables.users.map (·.email)).Nodup ∧
      contest.2.tables = (Tables.ofAccounts onePlace).withUsers (made contest.1) := by
  have hrun : Run onePlace contenders contest.1 contest.2 := run_play onePlace contenders .epoch _
  obtain ⟨hquota, hemails, htables, -, -⟩ := quotas_hold_among_rivals hrun
  have hplace := hquota ⟨.ofNat 1, "Acme", none, "free", 1, .epoch⟩ (by decide) (by decide)
  exact ⟨hrun, by decide +kernel, by decide +kernel, by decide +kernel, hplace, hemails, htables⟩

end

end Joining

end TenantAuth.Postgres
