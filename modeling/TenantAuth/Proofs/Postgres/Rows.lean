-- Users as rows of the database. What is bound when a user is put in is what a row must hold to be
-- read as that user: writer and reader agree on the names of the columns, whatever order they come
-- in. Of many rows each is read, or none is given.

import Mathlib.Data.List.Sort
import TenantAuth.Postgres.Users
import TenantAuth.Proofs.Identifier
import TenantAuth.Proofs.Postgres.Running
import TenantAuth.Text.Split

namespace TenantAuth

/-- Sets with the same texts are the same. -/
theorem TextSet.eq_of_mem_iff {a b : TextSet} (h : ∀ x, x ∈ a ↔ x ∈ b) : a = b := by
  obtain ⟨as, has⟩ := a
  obtain ⟨bs, hbs⟩ := b
  simp only [TextSet.mk.injEq]
  exact has.eq_of_mem_iff hbs h

/-- A time that counts whole microseconds. A leap second is no count of them. -/
def Timestamp.CountsMicros (t : Timestamp) : Prop := t.nanos < 1000000000 ∧ t.nanos % 1000 = 0

instance (t : Timestamp) : Decidable t.CountsMicros := inferInstanceAs (Decidable (_ ∧ _))

namespace Postgres

open Step

/-! ## Times -/

/-- A written time that counts whole microseconds is a clock reading that is kept as it is. -/
theorem exists_precise {t : Timestamp} (h : t.CountsMicros) :
    ∃ u, Precise u ∧ Timestamp.ofInstant u = t := by
  obtain ⟨second, nanos, hlow, hhigh, _⟩ := t
  obtain ⟨hsecond, hmicros⟩ := h
  simp only at hsecond hmicros
  have hstart : Instant.earliestSecond * nanosPerSecond ≤ second * 1000000000 + nanos := by
    unfold Instant.earliestSecond nanosPerSecond at *
    omega
  have hend : second * 1000000000 + nanos < (Instant.latestSecond + 1) * nanosPerSecond := by
    unfold Instant.latestSecond nanosPerSecond at *
    omega
  refine ⟨⟨second * 1000000000 + nanos, hstart, hend⟩, ?_, ?_⟩
  · change (second * 1000000000 + (nanos : Int)) % 1000 = 0
    omega
  · simp only [Timestamp.ofInstant, Timestamp.mk.injEq]
    omega

/-- What is kept of a written time is that time just when it counts whole microseconds. -/
theorem ofTimestamp_eq (t : Timestamp) :
    ∃ u, Cell.ofTimestamp t = .time u ∧ (.ofInstant u = t ↔ t.CountsMicros) := by
  obtain ⟨u, hu⟩ : ∃ u, Cell.ofTimestamp t = .time u := ⟨_, rfl⟩
  refine ⟨u, hu, ?_, ?_⟩
  · rintro rfl
    rw [Cell.ofTimestamp_ofInstant] at hu
    have hprecise := Cell.precise_of_ofInstant hu
    unfold Precise at hprecise
    simp only [Timestamp.CountsMicros, Timestamp.ofInstant]
    omega
  · intro h
    obtain ⟨v, hprecise, rfl⟩ := exists_precise h
    rw [Cell.ofTimestamp_of_precise hprecise, Cell.time.injEq] at hu
    rw [hu]

/-! ## Names -/

/-- The names that a text lists in its first brackets. -/
def namesInBrackets (text : String) : List String :=
  let inside := ((text.toList.dropWhile (· ≠ '(')).drop 1).takeWhile (· ≠ ')')
  (Text.splitOn ',' inside).map fun name => String.ofList (name.dropWhile (· = ' '))

/-- A user is written under the names that users are read by. -/
theorem namesInBrackets_insertUser (p : Principal) :
    namesInBrackets (Statement.insertUser p).sql = Statement.userColumns.map (·.1) := by
  have hsql : (Statement.insertUser p).sql =
      "INSERT INTO users (id, organization_id, email, name, role, permissions, created_at) " ++
      "VALUES ($1, $2, $3, $4, $5, $6, $7)" := rfl
  rw [hsql]
  decide +kernel

/-! ## Rows -/

namespace Row

/-- A row holds just one value under a name. -/
def Holds (r : Row) (name : String) (cell : Cell) : Prop :=
  (name, cell) ∈ r.cells ∧ ∀ other, (name, other) ∈ r.cells → other = cell

/-- A row holds what a statement binds: under each name that the statement lists, the value that is
bound in its place. -/
def HoldsBound (r : Row) (s : Statement) : Prop :=
  ∃ cells, s.params? = some cells ∧ List.Forall₂ r.Holds (namesInBrackets s.sql) cells

theorem lookup_eq_some {cells : List (String × Cell)} {name : String} {cell : Cell}
    (hmem : (name, cell) ∈ cells) (hunique : ∀ other, (name, other) ∈ cells → other = cell) :
    cells.lookup name = some cell := by
  induction cells with
  | nil => simp at hmem
  | cons column cells ih =>
    obtain ⟨first, value⟩ := column
    by_cases hname : name = first
    · subst hname
      rw [List.lookup_cons_self, hunique value List.mem_cons_self]
    · have hrest : (name, cell) ∈ cells := by simpa [hname] using hmem
      have hne : (name == first) = false := by simpa using hname
      rw [List.lookup_cons, hne]
      exact ih hrest fun other hother => hunique other (List.mem_cons_of_mem _ hother)

theorem column?_of_holds {r : Row} {name : String} {cell : Cell} (h : r.Holds name cell) :
    r.column? name = some cell :=
  lookup_eq_some (List.mem_reverse.mpr h.1) fun other hother => h.2 other (List.mem_reverse.mp hother)

theorem get_of_holds {α : Type} {r : Row} {name : String} {cell : Cell} (read : Cell → Option α)
    (h : r.Holds name cell) : r.get name read = value ("\"" ++ name ++ "\"") read cell := by
  rw [get, column?_of_holds h]

/-- What cannot be read out of a row is corrupt. -/
theorem corrupt_of_get {α : Type} {r : Row} {name : String} {read : Cell → Option α} {f : Failure}
    (h : r.get name read = .error f) (operation : String) :
    ∃ message, f.toStoreError operation = .corrupt message := by
  have hvalue : ∀ {column cell}, value column read cell = .error f →
      ∃ reason, f = .badValue column reason := by
    intro column cell hcell
    unfold value at hcell
    split at hcell
    · cases hcell
      exact ⟨_, rfl⟩
    · split at hcell
      · cases hcell
      · cases hcell
        exact ⟨_, rfl⟩
  unfold get at h
  split at h
  · cases h
    exact ⟨_, rfl⟩
  · obtain ⟨reason, rfl⟩ := hvalue h
    exact ⟨_, rfl⟩

/-! ## Users -/

/-- A row tells of a user: a value under each of the seven names, with the role by its name, and
with the overrides in any order. -/
structure Tells (r : Row) (p : Principal) : Prop where
  id : r.get "id" Cell.uuid? = .ok p.id.uuid
  organization : r.get "organization_id" Cell.uuid? = .ok p.organization.uuid
  email : r.get "email" Cell.text? = .ok p.email
  name : r.get "name" Cell.text? = .ok p.name
  role : r.get "role" Cell.text? = .ok p.role.name
  overrides : ∃ listed, r.get "permissions" Cell.texts? = .ok listed ∧ p.overrides = .ofList listed
  createdAt : ∃ t, r.get "created_at" Cell.time? = .ok t ∧ p.createdAt = .ofInstant t

end Row

theorem principalOfRow_eq_ok_iff {r : Row} {p : Principal} :
    principalOfRow r = .ok p ↔ r.Tells p := by
  constructor
  · intro h
    unfold principalOfRow at h
    split at h
    · cases h
    · next id role principal huser =>
      simp only [Row.user, bind_eq_ok_iff, Except.ok.injEq, Prod.mk.injEq] at huser
      obtain ⟨id, hid, organization, horganization, email, hemail, name, hname, role, hrole, listed,
        hlisted, t, ht, rfl, rfl, rfl⟩ := huser
      split at h
      · next r hr =>
        cases h
        rw [Role.ofName_eq_ok_iff] at hr
        subst hr
        exact ⟨hid, horganization, hemail, hname, hrole, ⟨listed, hlisted, rfl⟩, t, ht, rfl⟩
      · cases h
  · intro h
    obtain ⟨hid, horganization, hemail, hname, hrole, ⟨listed, hlisted, hset⟩, t, ht, htime⟩ := h
    have hknown : Role.ofName p.role.name = .ok p.role := Role.ofName_eq_ok_iff.2 rfl
    unfold principalOfRow Row.user
    rw [hid, horganization, hemail, hname, hrole, hlisted, ht]
    simp only [bind, Except.bind, hknown, ← hset, ← htime]

/-- A row that tells of nobody is corrupt. -/
theorem corrupt_of_principalOfRow {r : Row} {e : StoreError} (h : principalOfRow r = .error e) :
    ∃ message, e = .corrupt message := by
  unfold principalOfRow at h
  split at h
  · next f huser =>
    cases h
    simp only [Row.user, bind_eq_error_iff] at huser
    -- one of the seven values cannot be read, and nothing else goes wrong
    rcases huser with h | ⟨_, -, h | ⟨_, -, h | ⟨_, -, h | ⟨_, -, h | ⟨_, -, h | ⟨_, -, h |
      ⟨_, -, h⟩⟩⟩⟩⟩⟩⟩
    iterate 7 exact Row.corrupt_of_get h _
    cases h
  · split at h <;> cases h
    exact ⟨_, rfl⟩

/-- A row with a role that nobody can have is corrupt. -/
theorem corrupt_of_unknown_role {r : Row} {name : String}
    (hrole : r.get "role" Cell.text? = .ok name) (hunknown : ∀ role : Role, name ≠ role.name) :
    ∃ message, principalOfRow r = .error (.corrupt message) := by
  cases h : principalOfRow r with
  | ok p =>
    have htold := (principalOfRow_eq_ok_iff.1 h).role
    rw [hrole, Except.ok.injEq] at htold
    exact absurd htold (hunknown p.role)
  | error e =>
    obtain ⟨message, rfl⟩ := corrupt_of_principalOfRow h
    exact ⟨message, rfl⟩

/-- What is bound when a user is put in is read as that user, if it counts whole microseconds. -/
theorem principalOfRow_of_holdsBound {r : Row} {p : Principal}
    (h : r.HoldsBound (.insertUser p)) :
    principalOfRow r = .ok p ↔ p.createdAt.CountsMicros := by
  obtain ⟨cells, hparams, hcells⟩ := h
  obtain ⟨t, ht, hkept⟩ := ofTimestamp_eq p.createdAt
  rw [namesInBrackets_insertUser] at hcells
  obtain rfl := Option.some.inj hparams
  rw [ht] at hcells
  simp only [Statement.userColumns, List.map_cons, List.map_nil, List.forall₂_cons] at hcells
  obtain ⟨hid, horganization, hemail, hname, hrole, hoverrides, hcreatedAt, -⟩ := hcells
  have hcreated : r.get "created_at" Cell.time? = .ok t := Row.get_of_holds _ hcreatedAt
  rw [← hkept, principalOfRow_eq_ok_iff]
  constructor
  · intro htells
    obtain ⟨u, hu, htime⟩ := htells.createdAt
    rw [hcreated, Except.ok.injEq] at hu
    rw [hu, htime]
  · intro htime
    exact ⟨Row.get_of_holds _ hid, Row.get_of_holds _ horganization, Row.get_of_holds _ hemail,
      Row.get_of_holds _ hname, Row.get_of_holds _ hrole,
      ⟨_, Row.get_of_holds _ hoverrides, (TextSet.ofList_items _).symm⟩, t, hcreated, htime.symm⟩

/-- Of the overrides only what is among them counts, not in which order and how often. -/
theorem principalOfRow_congr {r r' : Row} {listed listed' : List String}
    (hothers : ∀ name ∈ Statement.userColumns.map (·.1), name ≠ "permissions" →
      r'.column? name = r.column? name)
    (hlisted : r.get "permissions" Cell.texts? = .ok listed)
    (hlisted' : r'.get "permissions" Cell.texts? = .ok listed')
    (hsame : ∀ x, x ∈ listed' ↔ x ∈ listed) : principalOfRow r' = principalOfRow r := by
  have hset : TextSet.ofList listed' = TextSet.ofList listed :=
    TextSet.eq_of_mem_iff fun x => by simpa using hsame x
  have hget : ∀ {α : Type} (read : Cell → Option α) name,
      name ∈ Statement.userColumns.map (·.1) → name ≠ "permissions" →
        r'.get name read = r.get name read := by
    intro α read name hname hne
    unfold Row.get
    rw [hothers name hname hne]
  have huser : r'.user = r.user := by
    unfold Row.user
    rw [hlisted, hlisted', hget _ "id" (by decide) (by decide),
      hget _ "organization_id" (by decide) (by decide), hget _ "email" (by decide) (by decide),
      hget _ "name" (by decide) (by decide), hget _ "role" (by decide) (by decide),
      hget _ "created_at" (by decide) (by decide)]
    simp only [bind, Except.bind, hset]
  unfold principalOfRow
  rw [huser]

/-! ## Many rows -/

/-- What reading rows one by one comes to: a user for each row, in their order, or what is wrong
with the first row that tells of nobody. -/
inductive ReadInOrder (rows : List Row) : Except StoreError (List Principal) → Prop
  | all {ps : List Principal} (each : List.Forall₂ (fun r p => principalOfRow r = .ok p) rows ps) :
      ReadInOrder rows (.ok ps)
  | refused {before after : List Row} {row : Row} {message : String}
      (split : rows = before ++ row :: after) (sound : ∀ r ∈ before, ∃ p, principalOfRow r = .ok p)
      (first : principalOfRow row = .error (.corrupt message)) :
      ReadInOrder rows (.error (.corrupt message))

theorem readInOrder_mapM (rows : List Row) : ReadInOrder rows (rows.mapM principalOfRow) := by
  induction rows with
  | nil => exact .all .nil
  | cons row rows ih =>
    rw [List.mapM_cons]
    cases hrow : principalOfRow row with
    | error e =>
      obtain ⟨message, rfl⟩ := corrupt_of_principalOfRow hrow
      exact .refused (List.nil_append (row :: rows)).symm (by simp) hrow
    | ok p =>
      generalize rows.mapM principalOfRow = result at ih
      cases ih with
      | all each => exact .all (.cons hrow each)
      | @refused before after bad message split sound first =>
        rw [split]
        refine .refused (List.cons_append).symm ?_ first
        intro r hr
        rcases List.mem_cons.1 hr with rfl | hr
        · exact ⟨p, hrow⟩
        · exact sound r hr

/-- The users of an organization, from whatever rows the database gives back. -/
theorem run_listUsers [TransactionManager] {σ : Type} {answer : (c : Call) → σ → Option c.Reply × σ}
    {s s' : σ} {o : OrganizationId} {rows : List Row} {affected : Nat}
    (hacquire : answer .acquire s = (some (.ok ()), s))
    (hsend : answer (.send (.listUsers o)) s = (some (.ok ⟨rows, affected⟩), s')) :
    (Users.answer (.listByOrganization o)).run answer s
      = (some (rows.mapM principalOfRow), s') := by
  have hrun : (Users.listByOrganization o ⟨0, none⟩).run answer s
      = (some (rows.mapM principalOfRow, ⟨0, none⟩), s') := by
    rw [Users.listByOrganization, run_bind (run_within (run_send 0 hsend))]
    cases rows.mapM principalOfRow <;> rfl
  exact run_connected hacquire hrun

/-! ## The law -/

/-- A user comes back from a row that holds what was bound for them, if their time counts whole
microseconds. Whatever a row holds, it is read as a user only if it tells of that user under all
seven names, and else is corrupt, as with a role that is none of the three; the order and the
repeats of the overrides do not matter. Many rows give a user each, in their order, or an error. -/
theorem users_survive_their_rows [TransactionManager] :
    (∀ (p : Principal) (r : Row), r.HoldsBound (.insertUser p) →
      (principalOfRow r = .ok p ↔ p.createdAt.CountsMicros))
    ∧ (∀ r p, principalOfRow r = .ok p ↔ r.Tells p)
    ∧ (∀ r e, principalOfRow r = .error e → ∃ message, e = .corrupt message)
    ∧ (∀ (r : Row) name, r.get "role" Cell.text? = .ok name → (∀ role : Role, name ≠ role.name) →
      ∃ message, principalOfRow r = .error (.corrupt message))
    ∧ (∀ (r r' : Row) (listed listed' : List String),
      (∀ name ∈ Statement.userColumns.map (·.1), name ≠ "permissions" →
        r'.column? name = r.column? name) →
      r.get "permissions" Cell.texts? = .ok listed →
      r'.get "permissions" Cell.texts? = .ok listed' →
      (∀ x, x ∈ listed' ↔ x ∈ listed) → principalOfRow r' = principalOfRow r)
    ∧ ∀ (σ : Type) (answer : (c : Call) → σ → Option c.Reply × σ) (s s' : σ) (o : OrganizationId)
        (rows : List Row) (affected : Nat), answer .acquire s = (some (.ok ()), s) →
      answer (.send (.listUsers o)) s = (some (.ok ⟨rows, affected⟩), s') →
      ∃ result, (Users.answer (.listByOrganization o)).run answer s = (some result, s')
        ∧ ReadInOrder rows result :=
  ⟨fun _ _ h => principalOfRow_of_holdsBound h, fun _ _ => principalOfRow_eq_ok_iff,
    fun _ _ h => corrupt_of_principalOfRow h,
    fun _ _ hrole hunknown => corrupt_of_unknown_role hrole hunknown,
    fun _ _ _ _ hothers hlisted hlisted' hsame =>
      principalOfRow_congr hothers hlisted hlisted' hsame,
    fun _ _ _ _ _ rows _ hacquire hsend =>
      ⟨_, run_listUsers hacquire hsend, readInOrder_mapM rows⟩⟩

/-! ### A row out of order -/

section

open TransactionManager.CountingFirst

def sample : Principal :=
  ⟨⟨.ofNat 7⟩, ⟨.ofNat 1⟩, "a@example.com", "A", .admin,
    .ofList ["create:org", "read:org"], ⟨1709249400, 123456000, by decide, by decide, by decide⟩⟩

/-- A row of the sample with its columns out of order, and with a column that nobody asks for. -/
def sampleRow (overrides : List String) : Row :=
  ⟨[("created_at", .ofTimestamp sample.createdAt), ("quota", .int4 5),
    ("permissions", .texts overrides), ("role", .text "admin"), ("name", .text "A"),
    ("email", .text "a@example.com"), ("organization_id", .uuid sample.organization.uuid),
    ("id", .uuid sample.id.uuid)]⟩

/-- A server that gives the same rows to every statement. -/
def sampleServer (rows : List Row) : (c : Call) → Unit → Option c.Reply × Unit
  | .connect .., s => (some (.ok ()), s)
  | .acquire, s => (some (.ok ()), s)
  | .send _, s => (some (.ok ⟨rows, rows.length⟩), s)

theorem sampleRow_holdsBound :
    (sampleRow sample.overrides.items).HoldsBound (.insertUser sample) := by
  refine ⟨_, rfl, ?_⟩
  rw [namesInBrackets_insertUser]
  simp [Statement.userColumns, Row.Holds, sampleRow, sample, Role.name]

theorem a_row_out_of_order_gives_its_user :
    principalOfRow (sampleRow sample.overrides.items) = .ok sample
      ∧ principalOfRow (sampleRow ["read:org", "create:org", "read:org"]) = .ok sample
      ∧ (∃ message, principalOfRow ⟨[("role", .text "root")]⟩ = .error (.corrupt message))
      ∧ ∃ result, (Users.answer (.listByOrganization sample.organization)).run
          (sampleServer [sampleRow sample.overrides.items, ⟨[]⟩]) () = (some result, ())
        ∧ ReadInOrder [sampleRow sample.overrides.items, ⟨[]⟩] result := by
  obtain ⟨hround, -, -, hunknown, hoverrides, hlist⟩ := users_survive_their_rows
  have hread := (hround sample _ sampleRow_holdsBound).2 (by decide)
  refine ⟨hread, ?_, hunknown _ "root" rfl ?_, hlist _ _ () () _ _ _ rfl rfl⟩
  · rw [← hread]
    refine hoverrides _ _ sample.overrides.items _ ?_ rfl rfl ?_
    · decide
    · simp [sample, ← TextSet.mem_def]
  · intro role
    cases role <;> decide

end

end Postgres

end TenantAuth
