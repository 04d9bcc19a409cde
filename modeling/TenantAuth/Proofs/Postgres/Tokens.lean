-- The table of sessions in the database, and what the statements that are sent to it
-- mean for it.

import Mathlib.Data.List.Nodup
import TenantAuth.Postgres.Sessions

namespace TenantAuth.Postgres

/-- The rows of the table. The id is its primary key, and the user and the hash are each
unique. Every user is taken to be in the table of users. -/
structure Tokens where
  rows : List Session
  ids : (rows.map (·.id)).Nodup
  users : (rows.map (·.user)).Nodup
  hashes : (rows.map (·.tokenHash)).Nodup

namespace Tokens

def empty : Tokens := ⟨[], .nil, .nil, .nil⟩

theorem eq_of_rows {d d' : Tokens} (h : d.rows = d'.rows) : d = d' := by
  cases d
  cases d'
  cases h
  rfl

/-- Delete the rows that do not pass a test. -/
def keep (p : Session → Bool) (d : Tokens) : Tokens where
  rows := d.rows.filter p
  ids := (List.filter_sublist.map _).nodup d.ids
  users := (List.filter_sublist.map _).nodup d.users
  hashes := (List.filter_sublist.map _).nodup d.hashes

/-- The rows that are not over. -/
def live (d : Tokens) (now : Instant) : Tokens := d.keep fun r => !decide (r.expiresAt ≤ now)

def find? (d : Tokens) (hash : String) : Option Session := d.rows.find? fun r => r.tokenHash = hash

/-- No two rows have one hash. -/
theorem find?_eq_some_iff {d : Tokens} {hash : String} {s : Session} :
    d.find? hash = some s ↔ s ∈ d.rows ∧ s.tokenHash = hash := by
  have hfound : ∀ r, d.find? hash = some r → r ∈ d.rows ∧ r.tokenHash = hash := by
    intro r hr
    exact ⟨List.mem_of_find?_eq_some hr, by simpa using List.find?_some hr⟩
  constructor
  · exact hfound s
  · rintro ⟨hs, rfl⟩
    have hsome : (d.find? s.tokenHash).isSome := by
      unfold find?
      rw [List.find?_isSome]
      exact ⟨s, hs, by simp⟩
    obtain ⟨r, hr⟩ := Option.isSome_iff_exists.mp hsome
    obtain ⟨hmem, hhash⟩ := hfound r hr
    rw [hr, List.inj_on_of_nodup_map d.hashes hmem hs hhash]

theorem not_expired_of_mem_live {d : Tokens} {now : Instant} {s : Session}
    (h : s ∈ (d.live now).rows) : s.isExpiredAt now = false := by
  simpa [Session.isExpiredAt] using (List.mem_filter.mp h).2

/-- No row is deleted when none has the hash. -/
theorem keep_of_find?_eq_none {d : Tokens} {hash : String} (h : d.find? hash = none) :
    (d.keep fun r => r.tokenHash ≠ hash) = d := by
  apply eq_of_rows
  apply List.filter_eq_self.mpr
  intro r hr
  simpa using List.find?_eq_none.mp h r hr

/-- No other user has a row with the id or the hash of a new row. -/
def Fits (d : Tokens) (s : Session) : Prop :=
  ∀ r ∈ d.rows, r.user ≠ s.user → r.id ≠ s.id ∧ r.tokenHash ≠ s.tokenHash

instance (d : Tokens) (s : Session) : Decidable (d.Fits s) :=
  inferInstanceAs (Decidable (∀ r ∈ d.rows, _))

theorem nodup_upsert {α : Type} (key : Session → α) {d : Tokens} {s : Session}
    (hd : (d.rows.map key).Nodup) (hkey : ∀ r ∈ d.rows, r.user ≠ s.user → key r ≠ key s) :
    ((s :: (d.keep fun r => r.user ≠ s.user).rows).map key).Nodup := by
  rw [List.map_cons, List.nodup_cons]
  refine ⟨?_, (List.filter_sublist.map _).nodup hd⟩
  intro hmem
  obtain ⟨r, hr, heq⟩ := List.mem_map.mp hmem
  obtain ⟨hr, huser⟩ := List.mem_filter.mp hr
  exact hkey r hr (by simpa using huser) heq

/-- Insert a row, or update the one that the user has. -/
def upsert (d : Tokens) (s : Session) (h : d.Fits s) : Tokens where
  rows := s :: (d.keep fun r => r.user ≠ s.user).rows
  ids := nodup_upsert _ d.ids fun r hr hu => (h r hr hu).1
  users := nodup_upsert _ d.users fun _ _ hu => hu
  hashes := nodup_upsert _ d.hashes fun r hr hu => (h r hr hu).2

/-! ## Statements -/

/-- A row as it is given back. -/
def rowOf (r : Session) : Row :=
  ⟨[("id", .uuid r.id.uuid), ("user_id", .uuid r.user.uuid), ("token_hash", .text r.tokenHash),
    ("expires_at", .time r.expiresAt), ("created_at", .time r.createdAt)]⟩

theorem session_rowOf (r : Session) : (rowOf r).session = .ok r := rfl

/-- The rows that pass a test, and how many there are. -/
def outcome (d : Tokens) (p : Session → Bool) : Outcome :=
  ⟨(d.rows.filter p).map rowOf, (d.rows.filter p).length⟩

/-- How many rows pass a test. -/
def affected (d : Tokens) (p : Session → Bool) : Outcome := ⟨[], (d.rows.filter p).length⟩

/-- A statement with its parameters, as its text says. There are no other tables. -/
def execute (d : Tokens) (s : Statement) : Except Failure Outcome × Tokens :=
  match s, s.params? with
  | .ping, some [] => (.ok ⟨[⟨[("?column?", .int4 1)]⟩], 1⟩, d)
  | .sweep _, some [.time now] => (.ok (d.affected fun r => r.expiresAt ≤ now), d.live now)
  | .upsertSession _, some [.uuid id, .uuid user, .text hash, .time expiry, .time created] =>
    if h : d.Fits ⟨⟨id⟩, ⟨user⟩, hash, expiry, created⟩ then (.ok ⟨[], 1⟩, d.upsert _ h)
    else (.error (.server Failure.uniqueViolation "duplicate key value"), d)
  | .findSession _, some [.text hash] => (.ok (d.outcome fun r => r.tokenHash = hash), d)
  | .consumeSession _, some [.text hash] =>
    (.ok (d.outcome fun r => r.tokenHash = hash), d.keep fun r => r.tokenHash ≠ hash)
  | .deleteSession _, some [.text hash] =>
    (.ok (d.affected fun r => r.tokenHash = hash), d.keep fun r => r.tokenHash ≠ hash)
  | .deleteSessionsOf _, some [.uuid user] =>
    (.ok (d.affected fun r => r.user = ⟨user⟩), d.keep fun r => r.user ≠ ⟨user⟩)
  | _, _ => (.error (.server "42P01" "relation does not exist"), d)

theorem head?_outcome (d : Tokens) (hash : String) :
    (d.outcome fun r => r.tokenHash = hash).rows.head? = (d.find? hash).map rowOf := by
  simp [outcome, find?, List.head?_filter]

theorem execute_sweep {now : Instant} (h : Precise now) (d : Tokens) :
    d.execute (.sweep now) = (.ok (d.affected fun r => r.expiresAt ≤ now), d.live now) := by
  simp only [execute, Statement.params?, Cell.ofInstant_of_precise h]

theorem execute_upsert {s : Session} (hexpiry : Precise s.expiresAt) (hcreated : Precise s.createdAt)
    {d : Tokens} (h : d.Fits s) : d.execute (.upsertSession s) = (.ok ⟨[], 1⟩, d.upsert s h) := by
  simp only [execute, Statement.params?, Cell.ofInstant_of_precise hexpiry,
    Cell.ofInstant_of_precise hcreated]
  exact dif_pos h

end Tokens

/-! ## Transactions -/

/-- A table, and what it was when the open transaction began and at each savepoint since,
the latest first. -/
structure Database where
  tokens : Tokens
  saved : List Tokens

namespace Database

/-- One statement. That a transaction in which one fails is barred to all others does not
matter here, since none fails. -/
def execute (db : Database) : Statement → Except Failure Outcome × Database
  | .begin => (.ok ⟨[], 0⟩, { db with saved := if db.saved = [] then [db.tokens] else db.saved })
  | .savepoint =>
    match db.saved with
    | [] => (.error (.server "25P01" "no transaction in progress"), db)
    | saved => (.ok ⟨[], 0⟩, { db with saved := db.tokens :: saved })
  | .release =>
    match db.saved with
    | _ :: start :: saved => (.ok ⟨[], 0⟩, { db with saved := start :: saved })
    | _ => (.error (.server "3B001" "savepoint does not exist"), db)
  | .rollbackToSavepoint =>
    match db.saved with
    | tokens :: start :: saved => (.ok ⟨[], 0⟩, ⟨tokens, tokens :: start :: saved⟩)
    | _ => (.error (.server "3B001" "savepoint does not exist"), db)
  | .commit => (.ok ⟨[], 0⟩, { db with saved := [] })
  | .rollback => (.ok ⟨[], 0⟩, ⟨db.saved.getLast?.getD db.tokens, []⟩)
  | s => ((db.tokens.execute s).1, { db with tokens := (db.tokens.execute s).2 })

/-- The server can always be reached. -/
def answer : (c : Call) → Database → Option c.Reply × Database
  | .connect .., db | .acquire, db => (some (.ok ()), db)
  | .send s, db => (some (db.execute s).1, (db.execute s).2)

/-- One call to the store. A transaction that is left open is rolled back. -/
def serve [TransactionManager] (d : Tokens) (c : SessionCall) : Option c.Reply × Tokens :=
  let (reply, db) := (Sessions.answer c).run answer ⟨d, []⟩
  (reply, db.saved.getLast?.getD db.tokens)

end Database

end TenantAuth.Postgres
