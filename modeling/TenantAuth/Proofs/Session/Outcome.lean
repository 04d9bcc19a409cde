-- What the requests on the sessions come to with both stores in memory, one request at a time: when
-- a secret is given out, what is filed with it, and which secrets are accepted or turned down.

import TenantAuth.Proofs.Backend
import TenantAuth.Proofs.Session.Owner
import TenantAuth.Session.Refresh

namespace TenantAuth.Refresh

variable {m m' : Memory}

/-! ## One call -/

theorem run_inMemory {α : Type} {c : SessionCall} {f : c.Reply → BackendProgram α} {reply : c.Reply}
    {sessions : SessionMemory} (h : m.sessions.answer c = (some reply, sessions)) :
    (BackendProgram.session c >>= f).run Memory.answer m =
      (f reply).run Memory.answer { m with sessions } :=
  BackendProgram.run_session_some (by rw [Memory.answer, h])

theorem run_inMemory_broken {α : Type} {c : SessionCall} {f : c.Reply → BackendProgram α}
    {sessions : SessionMemory} (h : m.sessions.answer c = (none, sessions)) :
    (BackendProgram.session c >>= f).run Memory.answer m = (none, { m with sessions }) :=
  BackendProgram.run_session_none (by rw [Memory.answer, h])

theorem run_loadUser_of_known {d : Directory} {u : UserId} {p : Principal}
    (h : d.users.find? u = some p) (sessions : SessionMemory) :
    (loadUser u).run Memory.answer ⟨sessions, d⟩ = (some (.ok p), ⟨sessions, d⟩) := by
  simp [loadUser, BackendProgram.directory, Program.perform, Program.run, Memory.answer,
    Directory.answer, h]

theorem run_loadUser_of_unknown {d : Directory} {u : UserId} (h : d.users.find? u = none)
    (sessions : SessionMemory) :
    (loadUser u).run Memory.answer ⟨sessions, d⟩ = (some (.error .unknownUser), ⟨sessions, d⟩) := by
  simp [loadUser, BackendProgram.directory, Program.perform, Program.run, Memory.answer,
    Directory.answer, h]

theorem answer_of_locked {sessions : SessionMemory} (h : sessions.locked = true) {c : SessionCall}
    (hc : c ≠ .ping) : sessions.answer c = (some (.error SessionMemory.lockedError), sessions) := by
  simp [SessionMemory.answer, h, hc]

theorem answer_of_open {sessions : SessionMemory} (h : sessions.locked = false) {c : SessionCall}
    {a : c.Answer} {t : SessionTable} (htable : sessions.table.answer c = (some a, t)) :
    sessions.answer c = (some (.ok a), ⟨t, false⟩) := by
  simp [SessionMemory.answer, h, htable]

/-- A call that breaks down leaves the store locked. -/
theorem answer_of_broken {sessions : SessionMemory} (h : sessions.locked = false) {c : SessionCall}
    {t : SessionTable} (htable : sessions.table.answer c = (none, t)) :
    sessions.answer c = (none, ⟨t, true⟩) := by
  simp [SessionMemory.answer, h, htable]

theorem answer_findByHash {t : SessionTable} {hash : String} {now : Instant} {found : Option Session}
    (h : (t.live now).find? hash = found) :
    t.answer (.findByHash hash now) = (some found, t.live now) := by
  rw [SessionTable.answer, h]

/-! ## Secrets that are given out -/

/-- A session of a user is filed under a secret, for seven days from now. -/
structure Opened (m m' : Memory) (u : UserId) (secret : String) (now : Instant) : Prop where
  directory : m'.directory = m.directory
  unlocked : m'.sessions.locked = false
  filed : ∃ session, m'.sessions.table.find? (Secret.hash secret) = some session ∧
    session.user = u ∧ session.expiresAt.nanos = now.nanos + Session.lifetime

theorem opened_file {t : SessionTable} {u : UserId} {secret : String} {id : SessionId}
    {now : Instant} {session : Session}
    (h : Session.fresh? id u (Secret.hash secret) now = some session) :
    Opened m { m with sessions := ⟨t.file session, false⟩ } u secret now := by
  obtain ⟨expiry, hexpiry, rfl⟩ := Session.fresh?_eq_some_iff.mp h
  exact ⟨rfl, rfl, _, (Keyed.find?_put ..).trans (if_pos rfl), rfl, hexpiry⟩

theorem opened_of_create {u : UserId} {secret given : String} {id : SessionId} {now : Instant}
    (h : (create u secret id now).run Memory.answer m = (some (.ok given), m')) :
    given = secret ∧ Opened m m' u secret now := by
  unfold create at h
  split at h
  · cases h
  · next session hfresh =>
    cases hlocked : m.sessions.locked with
    | true =>
      rw [run_inMemory (answer_of_locked hlocked (by simp))] at h
      cases h
    | false =>
      rw [run_inMemory (answer_of_open hlocked rfl)] at h
      cases h
      exact ⟨rfl, opened_file hfresh⟩

theorem opened_of_rotate {secret next given : String} {id : SessionId} {now : Instant}
    {p : Principal}
    (h : (rotate secret next id now).run Memory.answer m = (some (.ok (given, p)), m')) :
    given = next ∧ ∃ u, m.sessions.table.owner? secret now = some u ∧
      m.directory.users.find? u = some p ∧ Opened m m' u next now := by
  unfold rotate at h
  cases hlocked : m.sessions.locked with
  | true =>
    rw [run_inMemory (answer_of_locked hlocked (by simp))] at h
    cases h
  | false =>
    cases hfind : (m.sessions.table.live now).find? (Secret.hash secret) with
    | none =>
      rw [run_inMemory (answer_of_open hlocked (SessionTable.answer_rotate_of_absent hfind))] at h
      cases h
    | some consumed =>
      cases hfresh : Session.fresh? id consumed.user (Secret.hash next) now with
      | none =>
        have hbroken := answer_of_broken hlocked (SessionTable.answer_rotate_of_late hfind hfresh)
        rw [run_inMemory_broken hbroken] at h
        cases h
      | some session =>
        have hfound := answer_of_open hlocked (SessionTable.answer_rotate_of_found hfind hfresh)
        have hlive := SessionTable.not_expired_of_find?_live hfind
        rw [run_inMemory hfound] at h
        simp only [hlive, Bool.false_eq_true, if_false, Program.bind_eq, Program.run_andThen] at h
        cases hknown : m.directory.users.find? consumed.user with
        | none =>
          rw [run_loadUser_of_unknown hknown] at h
          simp only [← Program.bind_eq] at h
          rw [run_inMemory (answer_of_open rfl rfl)] at h
          cases h
        | some q =>
          rw [run_loadUser_of_known hknown] at h
          cases h
          refine ⟨rfl, consumed.user, ?_, hknown, opened_file hfresh⟩
          rw [SessionTable.owner?, hfind, Option.map_some]

/-! ## Secrets that are presented -/

/-- The secret finds a session that is not over, of a user whom the directory knows. -/
theorem run_validate_of_filed {secret : String} {now : Instant} {session : Session}
    {p : Principal} (hopen : m.sessions.locked = false)
    (hfind : m.sessions.table.find? (Secret.hash secret) = some session)
    (hlive : session.isExpiredAt now = false)
    (hknown : m.directory.users.find? session.user = some p) :
    ((validate secret now).run Memory.answer m).1 = some (.ok p) := by
  have hfound : (m.sessions.table.live now).find? (Secret.hash secret) = some session := by
    rw [SessionTable.find?_live, hfind]
    simp [Option.filter_some, hlive]
  have hanswer := answer_of_open hopen (answer_findByHash hfound)
  unfold validate
  rw [run_inMemory hanswer]
  simp only [hlive, Bool.false_eq_true, if_false]
  rw [run_loadUser_of_known hknown]

/-- The secret is turned down, whenever it is presented and whatever for. -/
def Dead (m : Memory) (secret : String) : Prop :=
  ∀ now, (∃ e, ((validate secret now).run Memory.answer m).1 = some (.error e)) ∧
    ∀ next id, ∃ e, ((rotate secret next id now).run Memory.answer m).1 = some (.error e)

theorem dead_of_absent {secret : String}
    (h : m.sessions.table.find? (Secret.hash secret) = none) : Dead m secret := by
  intro now
  have habsent : (m.sessions.table.live now).find? (Secret.hash secret) = none := by
    rw [SessionTable.find?_live, h, Option.filter_none]
  unfold validate rotate
  cases hlocked : m.sessions.locked with
  | true =>
    refine ⟨⟨.store SessionMemory.lockedError, ?_⟩,
      fun next id => ⟨.store SessionMemory.lockedError, ?_⟩⟩
    · rw [run_inMemory (answer_of_locked hlocked (by simp))]
      rfl
    · rw [run_inMemory (answer_of_locked hlocked (by simp))]
      rfl
  | false =>
    refine ⟨⟨.notFound, ?_⟩, fun next id => ⟨.notFound, ?_⟩⟩
    · rw [run_inMemory (answer_of_open hlocked (answer_findByHash habsent))]
      rfl
    · rw [run_inMemory (answer_of_open hlocked (SessionTable.answer_rotate_of_absent habsent))]
      rfl

end TenantAuth.Refresh
