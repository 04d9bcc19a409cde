-- The past decides. Served one after the other, requests on the sessions in
-- memory are answered by what was asked before alone: a chronicle of openings and
-- endings, kept beside the store, says of every secret whose session it finds.

import Mathlib.Data.List.Induction
import TenantAuth.Proofs.Backend
import TenantAuth.Proofs.Session.Owner
import TenantAuth.Proofs.Session.Request

namespace TenantAuth.Refresh

/-! ## Turns -/

/-- A request, and what the directory replies while it is served. -/
structure Turn where
  request : Request
  directory : (c : DirectoryCall) → c.Reply

namespace Turn

/-- The user that the directory finds, where the look-up does not fail. -/
def principal? (t : Turn) (u : UserId) : Option Principal :=
  match t.directory (.findById u) with
  | .ok p => p
  | .error _ => none

def answer (t : Turn) : (c : BackendCall) → SessionMemory → Option c.Reply × SessionMemory
  | .sessions c, m => m.answer c
  | .directory c, m => (some (t.directory c), m)

/-- What a request is answered with, and the sessions it leaves. -/
def serve (t : Turn) (m : SessionMemory) : Option t.request.Answer × SessionMemory :=
  t.request.program.run t.answer m

end Turn

/-- The sessions after some turns, from none at all. -/
def after (past : List Turn) : SessionMemory := past.foldl (fun m t => (t.serve m).2) .empty

theorem after_snoc (past : List Turn) (t : Turn) :
    after (past ++ [t]) = (t.serve (after past)).2 := by
  simp [after]

/-- Turns in the order of their times, whose secrets are all different, whose
sessions end inside the calendar, and for which the directory never fails. -/
structure Fair (turns : List Turn) : Prop where
  distinct : Distinct (turns.map (·.request))
  apart : Apart ((turns.map (·.request)).flatMap Request.secrets)
  ordered : (turns.filterMap (·.request.time?)).Pairwise (· ≤ ·)
  inside : ∀ now ∈ turns.filterMap (·.request.time?), (now.add? Session.lifetime).isSome
  lookUps : ∀ t ∈ turns, ∀ u, ∃ p, t.directory (.findById u) = .ok p

/-! ## The chronicle -/

/-- One entry of the chronicle. -/
inductive Mark where
  /-- A session of a user was put in under a secret. -/
  | opened (user : UserId) (secret : String) (start : Instant)
  /-- The user was revoked, or a rotation found that nobody knows the user. -/
  | closed (user : UserId)
  /-- The secret was revoked, or presented for rotation. -/
  | spent (secret : String)
  deriving DecidableEq

/-- The mark ends a session that was opened for a user under a secret. -/
def Mark.Ends (u : UserId) (secret : String) : Mark → Prop
  | opened u' _ _ => u = u'
  | closed u' => u = u'
  | spent s => s = secret

/-- The secret is that of the last session opened for the user, at `start`, and
nothing has ended that session since. The newest mark stands first. -/
def Stands (log : List Mark) (secret : String) (u : UserId) (start : Instant) : Prop :=
  ∃ since before, log = since ++ .opened u secret start :: before ∧
    ∀ m ∈ since, ¬ m.Ends u secret

/-- The secret finds a session of the user: it stands, for less than seven days. -/
def Holds (log : List Mark) (secret : String) (now : Instant) (u : UserId) : Prop :=
  ∃ start, Stands log secret u start ∧ now.nanos < start.nanos + Session.lifetime

/-- The session that stands for a secret: its user and its start. -/
def standing? (secret : String) : List Mark → Option (UserId × Instant)
  | [] => none
  | .opened u s start :: log =>
    if s = secret then some (u, start) else (standing? secret log).filter (·.1 ≠ u)
  | .closed u :: log => (standing? secret log).filter (·.1 ≠ u)
  | .spent s :: log => if s = secret then none else standing? secret log

/-- The user whose session a secret finds. -/
def holder? (log : List Mark) (secret : String) (now : Instant) : Option UserId :=
  ((standing? secret log).filter fun s => now.nanos < s.2.nanos + Session.lifetime).map (·.1)

/-- The chronicle after one more turn. A rotation uses up its secret in any case.
Where the secret finds a session, it opens the next one for the same user, and
ends that too if the directory does not know the user. -/
def record (log : List Mark) (t : Turn) : List Mark :=
  match t.request with
  | .create user secret _ now => .opened user secret now :: log
  | .validate .. => log
  | .rotate secret next _ now =>
    match holder? log secret now with
    | none => .spent secret :: log
    | some u =>
      match t.principal? u with
      | some _ => .opened u next now :: .spent secret :: log
      | none => .closed u :: .opened u next now :: .spent secret :: log
  | .revoke user => .closed user :: log
  | .revokeSecret secret => .spent secret :: log
  | .sweep _ => log

def chronicle (past : List Turn) : List Mark := past.foldl record []

theorem chronicle_snoc (past : List Turn) (t : Turn) :
    chronicle (past ++ [t]) = record (chronicle past) t := by
  simp [chronicle]

/-! ## Reading the chronicle -/

theorem stands_cons {m : Mark} {log : List Mark} {secret : String} {u : UserId} {start : Instant} :
    Stands (m :: log) secret u start ↔
      m = .opened u secret start ∨ (¬ m.Ends u secret ∧ Stands log secret u start) := by
  constructor
  · rintro ⟨since, before, heq, hends⟩
    rcases since with _ | ⟨m', since⟩
    · simp only [List.nil_append, List.cons.injEq] at heq
      exact Or.inl heq.1
    · simp only [List.cons_append, List.cons.injEq] at heq
      obtain ⟨rfl, rfl⟩ := heq
      exact Or.inr ⟨hends _ (by simp), since, before, rfl, fun m hm => hends m (by simp [hm])⟩
  · rintro (rfl | ⟨hm, since, before, rfl, hends⟩)
    · exact ⟨[], log, rfl, by simp⟩
    · refine ⟨m :: since, before, rfl, ?_⟩
      intro m' hm'
      rcases List.mem_cons.mp hm' with rfl | hm'
      · exact hm
      · exact hends m' hm'

/-- The secrets of the sessions that were opened. -/
def openedSecrets (log : List Mark) : List String :=
  log.filterMap fun m => match m with
    | .opened _ s _ => some s
    | .closed _ | .spent _ => none

theorem mem_openedSecrets_of_stands {log : List Mark} {secret : String} {u : UserId}
    {start : Instant} (h : Stands log secret u start) : secret ∈ openedSecrets log := by
  obtain ⟨since, before, rfl, _⟩ := h
  simp [openedSecrets]

/-- Where no secret was handed out twice, the session that stands is found by one
walk from the newest mark back. -/
theorem standing?_eq_some_iff {log : List Mark} (hd : (openedSecrets log).Nodup) {secret : String}
    {u : UserId} {start : Instant} :
    standing? secret log = some (u, start) ↔ Stands log secret u start := by
  induction log with
  | nil => simp [standing?, Stands]
  | cons m log ih =>
    rw [stands_cons]
    cases m with
    | opened u' s start' =>
      simp only [openedSecrets, List.filterMap_cons, List.nodup_cons] at hd
      by_cases hs : s = secret
      · subst hs
        have hnot : ¬ Stands log s u start := fun h => hd.1 (mem_openedSecrets_of_stands h)
        simp [standing?, hnot, eq_comm]
      · rw [standing?, if_neg hs, Option.filter_eq_some_iff, ih hd.2]
        simp [Mark.Ends, hs, and_comm]
    | closed u' =>
      rw [standing?, Option.filter_eq_some_iff, ih hd]
      simp [Mark.Ends, and_comm]
    | spent s =>
      by_cases hs : s = secret
      · simp [standing?, Mark.Ends, hs]
      · rw [standing?, if_neg hs, ih hd]
        simp [Mark.Ends, hs]

theorem holder?_eq_some_iff {log : List Mark} (hd : (openedSecrets log).Nodup) {secret : String}
    {now : Instant} {u : UserId} : holder? log secret now = some u ↔ Holds log secret now u := by
  unfold holder? Holds
  constructor
  · intro h
    obtain ⟨⟨u', start⟩, hf, rfl⟩ := Option.map_eq_some_iff.mp h
    obtain ⟨hs, hlt⟩ := Option.filter_eq_some_iff.mp hf
    exact ⟨start, (standing?_eq_some_iff hd).mp hs, by simpa using hlt⟩
  · rintro ⟨start, hs, hlt⟩
    rw [(standing?_eq_some_iff hd).mpr hs]
    simp [Option.filter_some, hlt]

/-- What a secret finds at a time, it found at any time before. -/
theorem holder?_of_later {log : List Mark} {secret : String} {t now : Instant} {u : UserId}
    (h : t ≤ now) (hu : holder? log secret now = some u) : holder? log secret t = some u := by
  unfold holder? at *
  obtain ⟨s, hf, rfl⟩ := Option.map_eq_some_iff.mp hu
  obtain ⟨hs, hlt⟩ := Option.filter_eq_some_iff.mp hf
  have hlt' : t.nanos < s.2.nanos + Session.lifetime := by
    simp only [decide_eq_true_eq, Instant.le_def] at hlt h
    omega
  simp [hs, Option.filter_some, hlt']

theorem holder?_opened (u : UserId) (s : String) (start : Instant) (log : List Mark)
    (secret : String) (now : Instant) :
    holder? (.opened u s start :: log) secret now =
      if s = secret then
        if now.nanos < start.nanos + Session.lifetime then some u else none
      else (holder? log secret now).filter (· ≠ u) := by
  unfold holder?
  rw [standing?]
  by_cases hs : s = secret
  · by_cases hlt : now.nanos < start.nanos + Session.lifetime <;> simp [Option.filter_some, hs, hlt]
  · rw [if_neg hs, if_neg hs]
    rcases standing? secret log with _ | ⟨u', start'⟩
    · rfl
    · by_cases hu : u' = u <;> by_cases hlt : now.nanos < start'.nanos + Session.lifetime <;>
        simp [Option.filter_some, hu, hlt]

theorem holder?_closed (u : UserId) (log : List Mark) (secret : String) (now : Instant) :
    holder? (.closed u :: log) secret now = (holder? log secret now).filter (· ≠ u) := by
  unfold holder?
  rw [standing?]
  rcases standing? secret log with _ | ⟨u', start'⟩
  · rfl
  · by_cases hu : u' = u <;> by_cases hlt : now.nanos < start'.nanos + Session.lifetime <;>
      simp [Option.filter_some, hu, hlt]

theorem holder?_spent (s : String) (log : List Mark) (secret : String) (now : Instant) :
    holder? (.spent s :: log) secret now = if s = secret then none else holder? log secret now := by
  unfold holder?
  rw [standing?]
  split <;> rfl

/-! ## What one turn does

Each request is run once here, against a store that is not locked. Below, only the
owner of a secret is looked at. -/

theorem run_session {α : Type} {t : Turn} {c : SessionCall} {m : SessionMemory} {reply : c.Answer}
    {table : SessionTable} (hm : m.locked = false) (h : m.table.answer c = (some reply, table))
    (f : c.Reply → BackendProgram α) :
    (BackendProgram.session c >>= f).run t.answer m =
      (f (.ok reply)).run t.answer ⟨table, false⟩ :=
  BackendProgram.run_session_some (by simp [Turn.answer, SessionMemory.answer, hm, h])

theorem serve_create {user : UserId} {secret : String} {id : SessionId} {now : Instant}
    {d : (c : DirectoryCall) → c.Reply} {m : SessionMemory} (hm : m.locked = false) {s : Session}
    (hs : Session.fresh? id user (Secret.hash secret) now = some s) :
    Turn.serve ⟨.create user secret id now, d⟩ m =
      (some (.ok secret), ⟨(m.table.live s.createdAt).file s, false⟩) := by
  simp only [Turn.serve, Request.program, create, hs]
  rw [run_session hm rfl]
  rfl

theorem serve_revoke {user : UserId} {d : (c : DirectoryCall) → c.Reply} {m : SessionMemory}
    (hm : m.locked = false) :
    Turn.serve ⟨.revoke user, d⟩ m = (some (.ok ()), ⟨m.table.withoutUser user, false⟩) := by
  simp only [Turn.serve, Request.program, revoke]
  rw [run_session hm rfl]
  rfl

theorem serve_revokeSecret {secret : String} {d : (c : DirectoryCall) → c.Reply}
    {m : SessionMemory} (hm : m.locked = false) :
    Turn.serve ⟨.revokeSecret secret, d⟩ m =
      (some (.ok ()), ⟨m.table.erase (Secret.hash secret), false⟩) := by
  simp only [Turn.serve, Request.program, revokeSecret]
  rw [run_session hm rfl]
  rfl

theorem serve_sweep {now : Instant} {d : (c : DirectoryCall) → c.Reply} {m : SessionMemory}
    (hm : m.locked = false) :
    Turn.serve ⟨.sweep now, d⟩ m =
      (some (.ok (m.table.size - (m.table.live now).size)), ⟨m.table.live now, false⟩) := by
  simp only [Turn.serve, Request.program, sweep]
  rw [run_session hm rfl]
  rfl

/-- What a turn answers for a user whose session it has found. -/
def Turn.load (t : Turn) (u : UserId) : Except RefreshError Principal :=
  match t.principal? u with
  | some p => .ok p
  | none => .error .unknownUser

/-- The directory is asked once, and no session changes. -/
theorem run_loadUser {α : Type} {t : Turn} {u : UserId}
    (hd : ∃ p, t.directory (.findById u) = .ok p) (m : SessionMemory)
    (f : Except RefreshError Principal → BackendProgram α) :
    (loadUser u >>= f).run t.answer m = (f (t.load u)).run t.answer m := by
  obtain ⟨found, hfound⟩ := hd
  have hreply : t.answer (.directory (.findById u)) m = (some (.ok found), m) := by
    simp [Turn.answer, hfound]
  rw [run_loadUser_some hreply, Turn.load, Turn.principal?, hfound]
  cases found <;> rfl

theorem serve_validate {secret : String} {now : Instant} {d : (c : DirectoryCall) → c.Reply}
    {m : SessionMemory} (hm : m.locked = false) (hd : ∀ u, ∃ p, d (.findById u) = .ok p) :
    Turn.serve ⟨.validate secret now, d⟩ m =
      (some (match m.table.owner? secret now with
        | none => .error .notFound
        | some u => Turn.load ⟨.validate secret now, d⟩ u),
       ⟨m.table.live now, false⟩) := by
  simp only [Turn.serve, Request.program, validate, SessionTable.owner?]
  rw [run_session hm rfl]
  cases hf : (m.table.live now).find? (Secret.hash secret) with
  | none => rfl
  | some s =>
    simp only [SessionTable.not_expired_of_find?_live hf, Bool.false_eq_true, if_false,
      Option.map_some]
    have hload := run_loadUser (t := ⟨.validate secret now, d⟩) (hd s.user)
      ⟨m.table.live now, false⟩ Program.done
    simpa [Program.run] using hload

/-- The table after a rotation that has found a session of `u`. -/
def rotated (table : SessionTable) (secret : String) (s : Session) : SessionTable :=
  SessionTable.file ((table.live s.createdAt).erase (Secret.hash secret)) s

theorem serve_rotate_none {secret next : String} {id : SessionId} {now : Instant}
    {d : (c : DirectoryCall) → c.Reply} {m : SessionMemory} (hm : m.locked = false)
    (hf : m.table.owner? secret now = none) :
    Turn.serve ⟨.rotate secret next id now, d⟩ m =
      (some (.error .notFound), ⟨m.table.live now, false⟩) := by
  have hnone : (m.table.live now).find? (Secret.hash secret) = none := by
    simpa [SessionTable.owner?] using hf
  have hreply : m.table.answer (.rotate (Secret.hash secret) (Secret.hash next) id now) =
      (some none, m.table.live now) := by
    simp [SessionTable.answer, hnone]
  simp only [Turn.serve, Request.program, rotate]
  rw [run_session hm hreply]
  rfl

theorem serve_rotate_some {secret next : String} {id : SessionId} {now : Instant}
    {d : (c : DirectoryCall) → c.Reply} {m : SessionMemory} (hm : m.locked = false)
    (hd : ∀ u, ∃ p, d (.findById u) = .ok p) {u : UserId} (hu : m.table.owner? secret now = some u)
    {s : Session} (hs : Session.fresh? id u (Secret.hash next) now = some s) :
    Turn.serve ⟨.rotate secret next id now, d⟩ m =
      match Turn.principal? ⟨.rotate secret next id now, d⟩ u with
      | some p => (some (.ok (next, p)), ⟨rotated m.table secret s, false⟩)
      | none => (some (.error .unknownUser), ⟨(rotated m.table secret s).withoutUser u, false⟩) := by
  obtain ⟨consumed, hf, rfl⟩ := Option.map_eq_some_iff.mp hu
  obtain ⟨_, _, hstart⟩ := Session.fields_of_fresh? hs
  have hreply : m.table.answer (.rotate (Secret.hash secret) (Secret.hash next) id now) =
      (some (some consumed), rotated m.table secret s) := by
    simp [SessionTable.answer, hf, SessionTable.not_expired_of_find?_live hf, hs, rotated, hstart]
  simp only [Turn.serve, Request.program, rotate]
  rw [run_session hm hreply]
  simp only [SessionTable.not_expired_of_find?_live hf, Bool.false_eq_true, if_false]
  rw [run_loadUser (t := ⟨.rotate secret next id now, d⟩) (hd consumed.user)]
  simp only [Turn.load]
  cases Turn.principal? ⟨.rotate secret next id now, d⟩ consumed.user with
  | some p => rfl
  | none =>
    simp only
    rw [run_session rfl rfl]
    rfl

/-! ## The store and the chronicle agree -/

/-- A store says of each secret what a chronicle says, at all times from the given
ones on. -/
structure Agrees (secrets : List String) (times : List Instant) (m : SessionMemory)
    (log : List Mark) : Prop where
  unlocked : m.locked = false
  owner : ∀ secret ∈ secrets, ∀ now, (∀ t ∈ times, t ≤ now) →
    m.table.owner? secret now = holder? log secret now

section Agreement

variable {secrets : List String} {times : List Instant} {table : SessionTable} {m : SessionMemory}
  {log : List Mark}

theorem agrees_sweep {start : Instant} (h : Agrees secrets times m log) :
    Agrees secrets (times ++ [start]) ⟨m.table.live start, false⟩ log := by
  refine ⟨rfl, fun secret hsecret now hnow => ?_⟩
  simp only [List.mem_append, List.mem_singleton] at hnow
  rw [SessionTable.owner?_live _ _ (hnow start (Or.inr rfl))]
  exact h.owner secret hsecret now fun t ht => hnow t (Or.inl ht)

theorem agrees_withoutUser (u : UserId) (h : Agrees secrets times ⟨table, false⟩ log) :
    Agrees secrets times ⟨table.withoutUser u, false⟩ (.closed u :: log) := by
  refine ⟨rfl, fun secret hsecret now hnow => ?_⟩
  rw [SessionTable.owner?_withoutUser, holder?_closed, ← h.owner secret hsecret now hnow]

/-- Taking out what is filed under the hash of a secret spends the secret. -/
theorem agrees_erase (apart : Apart secrets) {spent : String} (hspent : spent ∈ secrets)
    (h : Agrees secrets times ⟨table, false⟩ log) :
    Agrees secrets times ⟨table.erase (Secret.hash spent), false⟩ (.spent spent :: log) := by
  refine ⟨rfl, fun secret hsecret now hnow => ?_⟩
  rw [SessionTable.owner?_erase, holder?_spent, ← h.owner secret hsecret now hnow]
  by_cases heq : spent = secret
  · simp [heq]
  · rw [if_neg heq, if_neg fun hh => heq (apart _ hspent _ hsecret hh.symm)]

theorem isExpiredAt_fresh {id : SessionId} {u : UserId} {hash : String} {start now : Instant}
    {s : Session} (hs : Session.fresh? id u hash start = some s) :
    s.isExpiredAt now = true ↔ ¬ now.nanos < start.nanos + Session.lifetime := by
  obtain ⟨e, he, rfl⟩ := Session.fresh?_eq_some_iff.mp hs
  simp only [Session.isExpiredAt, decide_eq_true_eq, Instant.le_def, he]
  omega

/-- Filing a new session opens it. -/
theorem agrees_file (apart : Apart secrets) {id : SessionId} {u : UserId} {new : String}
    {start : Instant} {s : Session} (hs : Session.fresh? id u (Secret.hash new) start = some s)
    (hnew : new ∈ secrets) (h : Agrees secrets times ⟨table, false⟩ log) :
    Agrees secrets times ⟨table.file s, false⟩ (.opened u new start :: log) := by
  obtain ⟨huser, hhash, _⟩ := Session.fields_of_fresh? hs
  refine ⟨rfl, fun secret hsecret now hnow => ?_⟩
  rw [SessionTable.owner?_file, holder?_opened, ← h.owner secret hsecret now hnow, huser, hhash]
  by_cases heq : new = secret
  · subst heq
    by_cases hlt : now.nanos < start.nanos + Session.lifetime
    · simp [hlt, isExpiredAt_fresh hs]
    · simp [hlt, (isExpiredAt_fresh hs).mpr hlt]
  · rw [if_neg heq, if_neg fun hh => heq (apart _ hnew _ hsecret hh.symm)]

/-- A rotation that has found a session: the secret is spent, and the next session
is opened. -/
theorem agrees_rotated (apart : Apart secrets) {id : SessionId} {u : UserId} {secret next : String}
    {start : Instant} {s : Session} (hs : Session.fresh? id u (Secret.hash next) start = some s)
    (hsecret : secret ∈ secrets) (hnext : next ∈ secrets) (h : Agrees secrets times m log) :
    Agrees secrets (times ++ [start]) ⟨rotated m.table secret s, false⟩
      (.opened u next start :: .spent secret :: log) := by
  obtain ⟨_, _, hstart⟩ := Session.fields_of_fresh? hs
  unfold rotated
  rw [hstart]
  exact agrees_file apart hs hnext (agrees_erase apart hsecret (agrees_sweep h))

/-- A secret that finds nothing is spent for nothing. -/
theorem agrees_spent {secret : String} {start : Instant} (hnone : holder? log secret start = none)
    (h : Agrees secrets (times ++ [start]) m log) :
    Agrees secrets (times ++ [start]) m (.spent secret :: log) := by
  refine ⟨h.unlocked, fun secret' hsecret' now hnow => ?_⟩
  rw [holder?_spent, h.owner secret' hsecret' now hnow]
  by_cases heq : secret = secret'
  · subst heq
    rw [if_pos rfl, Option.eq_none_iff_forall_ne_some]
    intro u hu
    rw [holder?_of_later (hnow start (by simp)) hu] at hnone
    cases hnone
  · rw [if_neg heq]

/-- Serving one more turn keeps the store and the chronicle in agreement. -/
theorem agrees_serve (apart : Apart secrets) {t : Turn}
    (hknown : ∀ s ∈ t.request.secrets, s ∈ secrets)
    (hinside : ∀ now, t.request.time? = some now → (now.add? Session.lifetime).isSome)
    (hlater : ∀ now, t.request.time? = some now → ∀ t' ∈ times, t' ≤ now)
    (hd : ∀ u, ∃ p, t.directory (.findById u) = .ok p) (h : Agrees secrets times m log) :
    Agrees secrets (times ++ t.request.time?.toList) (t.serve m).2 (record log t) := by
  obtain ⟨request, d⟩ := t
  have h' : Agrees secrets times ⟨m.table, false⟩ log := ⟨rfl, h.owner⟩
  cases request with
  | create user new id start =>
    obtain ⟨s, hs⟩ := Session.fresh?_of_add? id user (Secret.hash new) (hinside start rfl)
    obtain ⟨_, _, hstart⟩ := Session.fields_of_fresh? hs
    rw [serve_create h.unlocked hs, hstart]
    exact agrees_file apart hs (hknown new (by simp [Request.secrets, Request.generated?]))
      (agrees_sweep h)
  | validate secret now =>
    rw [serve_validate h.unlocked hd]
    exact agrees_sweep h
  | rotate secret next id start =>
    have hsecret : secret ∈ secrets :=
      hknown secret (by simp [Request.secrets, Request.presented?])
    have hnext : next ∈ secrets := hknown next (by simp [Request.secrets, Request.generated?])
    have howner := h.owner secret hsecret start (hlater start rfl)
    cases hf : holder? log secret start with
    | none =>
      rw [serve_rotate_none h.unlocked (howner.trans hf)]
      simp only [record, hf]
      exact agrees_spent hf (agrees_sweep h)
    | some u =>
      obtain ⟨s, hs⟩ := Session.fresh?_of_add? id u (Secret.hash next) (hinside start rfl)
      rw [serve_rotate_some h.unlocked hd (howner.trans hf) hs]
      simp only [record, hf]
      cases Turn.principal? ⟨.rotate secret next id start, d⟩ u with
      | some p => exact agrees_rotated apart hs hsecret hnext h
      | none => exact agrees_withoutUser u (agrees_rotated apart hs hsecret hnext h)
  | revoke user =>
    rw [serve_revoke h.unlocked]
    simpa [Request.time?, record] using agrees_withoutUser user h'
  | revokeSecret secret =>
    rw [serve_revokeSecret h.unlocked]
    have hsecret : secret ∈ secrets :=
      hknown secret (by simp [Request.secrets, Request.presented?])
    simpa [Request.time?, record] using agrees_erase apart hsecret h'
  | sweep now =>
    rw [serve_sweep h.unlocked]
    exact agrees_sweep h

end Agreement

/-! ## Whole histories -/

theorem fair_past {past : List Turn} {t : Turn} (h : Fair (past ++ [t])) : Fair past where
  distinct := by
    have hd := h.distinct
    unfold Distinct at hd ⊢
    rw [List.map_append, List.filterMap_append] at hd
    exact (List.nodup_append.mp hd).1
  apart := fun a ha b hb => h.apart a (by simp_all) b (by simp_all)
  ordered := by
    have ho := h.ordered
    rw [List.filterMap_append] at ho
    exact (List.pairwise_append.mp ho).1
  inside := by
    intro now hnow
    refine h.inside now ?_
    rw [List.filterMap_append]
    exact List.mem_append_left _ hnow
  lookUps := fun t' ht' => h.lookUps t' (List.mem_append_left _ ht')

theorem fair_last_inside {past : List Turn} {t : Turn} (h : Fair (past ++ [t])) {now : Instant}
    (hnow : t.request.time? = some now) : (now.add? Session.lifetime).isSome := by
  refine h.inside now ?_
  rw [List.filterMap_append]
  exact List.mem_append_right _ (by simp [hnow])

theorem fair_last_later {past : List Turn} {t : Turn} (h : Fair (past ++ [t])) {now : Instant}
    (hnow : t.request.time? = some now) : ∀ t' ∈ past.filterMap (·.request.time?), t' ≤ now := by
  have ho := h.ordered
  rw [List.filterMap_append] at ho
  exact fun t' ht' => (List.pairwise_append.mp ho).2.2 t' ht' now (by simp [hnow])

/-- The chronicle and the store agree after every fair history. -/
theorem agrees_after {secrets : List String} (apart : Apart secrets) {past : List Turn}
    (h : Fair past) (hknown : ∀ t ∈ past, ∀ s ∈ t.request.secrets, s ∈ secrets) :
    Agrees secrets (past.filterMap (·.request.time?)) (after past) (chronicle past) := by
  induction past using List.reverseRecOn with
  | nil => exact ⟨rfl, fun _ _ _ _ => rfl⟩
  | append_singleton past t ih =>
    have htime : [t].filterMap (·.request.time?) = t.request.time?.toList := by
      cases ht : t.request.time? <;> simp [ht]
    rw [after_snoc, chronicle_snoc, List.filterMap_append, htime]
    exact agrees_serve apart (hknown t (by simp)) (fun _ => fair_last_inside h)
      (fun _ => fair_last_later h) (h.lookUps t (by simp))
      (ih (fair_past h) fun t' ht' => hknown t' (by simp [ht']))

/-- A turn opens at most one session, and under the secret generated for it. -/
theorem openedSecrets_record (log : List Mark) (t : Turn) :
    openedSecrets (record log t) = openedSecrets log ∨
      ∃ s, t.request.generated? = some s ∧
        openedSecrets (record log t) = s :: openedSecrets log := by
  obtain ⟨request, d⟩ := t
  cases request with
  | create user secret id now => exact Or.inr ⟨secret, rfl, rfl⟩
  | rotate secret next id now =>
    cases hf : holder? log secret now with
    | none => exact Or.inl (by simp [record, hf, openedSecrets])
    | some u =>
      refine Or.inr ⟨next, rfl, ?_⟩
      cases hp : Turn.principal? ⟨.rotate secret next id now, d⟩ u <;>
        simp [record, hf, hp, openedSecrets]
  | _ => exact Or.inl rfl

/-- No secret is handed out twice. -/
theorem openedSecrets_chronicle {past : List Turn} (h : Distinct (past.map (·.request))) :
    (openedSecrets (chronicle past)).Nodup ∧
      ∀ s ∈ openedSecrets (chronicle past),
        s ∈ (past.map (·.request)).filterMap Request.generated? := by
  induction past using List.reverseRecOn with
  | nil => simp [chronicle, openedSecrets]
  | append_singleton past t ih =>
    unfold Distinct at h ih
    rw [List.map_append, List.filterMap_append] at h ⊢
    obtain ⟨hnodup, hmem⟩ := ih (List.nodup_append.mp h).1
    rw [chronicle_snoc]
    rcases openedSecrets_record (chronicle past) t with heq | ⟨s, hs, heq⟩
    · rw [heq]
      exact ⟨hnodup, fun s hs => List.mem_append_left _ (hmem s hs)⟩
    · rw [heq]
      have hnew : s ∈ ([t].map (·.request)).filterMap Request.generated? := by simp [hs]
      refine ⟨List.nodup_cons.mpr ⟨fun hold => ?_, hnodup⟩, ?_⟩
      · exact (List.nodup_append.mp h).2.2 s (hmem s hold) s hnew rfl
      · intro s' hs'
        rcases List.mem_cons.mp hs' with rfl | hs'
        · exact List.mem_append_right _ hnew
        · exact List.mem_append_left _ (hmem s' hs')

/-- In a fair history the last turn comes to a store that is not locked, and in which
its secret finds what the chronicle says. -/
theorem owner?_after {past : List Turn} {t : Turn} (h : Fair (past ++ [t])) :
    (after past).locked = false ∧
      ∀ secret ∈ t.request.secrets, ∀ now, t.request.time? = some now → ∀ u,
        (after past).table.owner? secret now = some u ↔ Holds (chronicle past) secret now u := by
  have hagrees := agrees_after h.apart (fair_past h) fun t' ht' s hs => by
    simp only [List.mem_flatMap, List.mem_map]
    exact ⟨t'.request, ⟨t', List.mem_append_left _ ht', rfl⟩, hs⟩
  refine ⟨hagrees.unlocked, fun secret hsecret now hnow u => ?_⟩
  rw [hagrees.owner secret ?_ now (fair_last_later h hnow)]
  · exact holder?_eq_some_iff (openedSecrets_chronicle (fair_past h).distinct).1
  · simp only [List.mem_flatMap, List.mem_map]
    exact ⟨t.request, ⟨t, by simp, rfl⟩, hsecret⟩

/-! ## The law -/

/-- What is answered after some past, and what is left of the sessions, as the
chronicle of that past has it. -/
def Lawful (past : List Turn) : (t : Turn) → Option t.request.Answer × SessionMemory → Prop
  | ⟨.create _ secret _ _, _⟩, out => out.1 = some (.ok secret)
  | ⟨.validate secret now, d⟩, out =>
    (∀ u, Holds (chronicle past) secret now u →
      out.1 = some (Turn.load ⟨.validate secret now, d⟩ u)) ∧
    ((∀ u, ¬ Holds (chronicle past) secret now u) → out.1 = some (.error .notFound))
  | ⟨.rotate secret next id now, d⟩, out =>
    (∀ u, Holds (chronicle past) secret now u →
      match Turn.principal? ⟨.rotate secret next id now, d⟩ u with
      | some p => out.1 = some (.ok (next, p))
      | none => out.1 = some (.error .unknownUser) ∧ ∀ s ∈ out.2.table.values, s.user ≠ u) ∧
    ((∀ u, ¬ Holds (chronicle past) secret now u) → out.1 = some (.error .notFound))
  | ⟨.revoke _, _⟩, out => out.1 = some (.ok ())
  | ⟨.revokeSecret _, _⟩, out => out.1 = some (.ok ())
  | ⟨.sweep _, _⟩, out => ∃ count, out.1 = some (.ok count)

theorem user_ne_of_mem_withoutUser {table : SessionTable} {u : UserId} {s : Session}
    (h : s ∈ (table.withoutUser u).values) : s.user ≠ u := by
  obtain ⟨e, he, rfl⟩ := List.mem_map.mp h
  have := (Keyed.mem_entries_keep.mp he).2
  simpa using this

theorem lawful_validate {past : List Turn} {secret : String} {now : Instant}
    {d : (c : DirectoryCall) → c.Reply} (h : Fair (past ++ [⟨.validate secret now, d⟩])) :
    Lawful past ⟨.validate secret now, d⟩ (Turn.serve ⟨.validate secret now, d⟩ (after past)) := by
  obtain ⟨hm, hholds⟩ := owner?_after h
  have ho := hholds secret (by simp [Request.secrets, Request.presented?]) now rfl
  rw [serve_validate hm (h.lookUps ⟨.validate secret now, d⟩ (by simp))]
  refine ⟨fun u hu => ?_, fun hnone => ?_⟩
  · rw [(ho u).mpr hu]
  · have hf : (after past).table.owner? secret now = none :=
      Option.eq_none_iff_forall_ne_some.mpr fun u hu => hnone u ((ho u).mp hu)
    rw [hf]

theorem lawful_rotate {past : List Turn} {secret next : String} {id : SessionId} {now : Instant}
    {d : (c : DirectoryCall) → c.Reply} (h : Fair (past ++ [⟨.rotate secret next id now, d⟩])) :
    Lawful past ⟨.rotate secret next id now, d⟩
      (Turn.serve ⟨.rotate secret next id now, d⟩ (after past)) := by
  obtain ⟨hm, hholds⟩ := owner?_after h
  have ho := hholds secret (by simp [Request.secrets, Request.presented?]) now rfl
  refine ⟨fun u hu => ?_, fun hnone => ?_⟩
  · obtain ⟨s, hs⟩ := Session.fresh?_of_add? id u (Secret.hash next) (fair_last_inside h rfl)
    have hd := h.lookUps ⟨.rotate secret next id now, d⟩ (by simp)
    rw [serve_rotate_some hm hd ((ho u).mpr hu) hs]
    cases Turn.principal? ⟨.rotate secret next id now, d⟩ u with
    | some p => rfl
    | none => exact ⟨rfl, fun s hs => user_ne_of_mem_withoutUser hs⟩
  · have hf : (after past).table.owner? secret now = none :=
      Option.eq_none_iff_forall_ne_some.mpr fun u hu => hnone u ((ho u).mp hu)
    rw [serve_rotate_none hm hf]

/-- Every answer follows from the past alone. A secret that is presented finds a
session exactly if it is the secret of the last session opened for some user less
than seven days ago, and neither a revocation nor a rotation has ended that
session since; the answer is then for that user, as the directory knows them. In
every other case the secret is not found. The chronicle itself reads its rotations
in the same way. -/
theorem answers_follow_from_the_past {past : List Turn} {t : Turn} (h : Fair (past ++ [t])) :
    (∀ secret now u,
      holder? (chronicle past) secret now = some u ↔ Holds (chronicle past) secret now u) ∧
    Lawful past t (t.serve (after past)) := by
  refine ⟨fun _ _ _ => holder?_eq_some_iff (openedSecrets_chronicle (fair_past h).distinct).1, ?_⟩
  obtain ⟨hm, _⟩ := owner?_after h
  obtain ⟨request, d⟩ := t
  cases request with
  | create user secret id now =>
    obtain ⟨s, hs⟩ := Session.fresh?_of_add? id user (Secret.hash secret) (fair_last_inside h rfl)
    rw [serve_create hm hs]
    rfl
  | validate secret now => exact lawful_validate h
  | rotate secret next id now => exact lawful_rotate h
  | revoke user =>
    rw [serve_revoke hm]
    rfl
  | revokeSecret secret =>
    rw [serve_revokeSecret hm]
    rfl
  | sweep now =>
    rw [serve_sweep hm]
    exact ⟨_, rfl⟩

/-- A secret is handed out and exchanged while the directory knows the user. -/
def exchangedOnce : List Turn :=
  [⟨.create ⟨.ofNat 1⟩ "a" ⟨.ofNat 1⟩ .epoch,
    fun c => (Directory.empty.answer c).1⟩,
   ⟨.rotate "a" "b" ⟨.ofNat 2⟩ ⟨1, by decide, by decide⟩,
    fun c => ((Directory.empty.file
      (.fresh ⟨.ofNat 1⟩ ⟨.ofNat 3⟩ "a@b.c" "A" .owner .epoch)).answer c).1⟩,
   ⟨.sweep ⟨1, by decide, by decide⟩, fun c => (Directory.empty.answer c).1⟩]

/-- The next secret is exchanged when the directory has lost the user. -/
def exchangedAgain : Turn :=
  ⟨.rotate "b" "c" ⟨.ofNat 4⟩ ⟨2, by decide, by decide⟩, fun c => (Directory.empty.answer c).1⟩

theorem answers_follow_from_two_rotations :
    Fair (exchangedOnce ++ [exchangedAgain]) ∧
      Lawful exchangedOnce exchangedAgain (exchangedAgain.serve (after exchangedOnce)) := by
  refine ⟨?fair, (answers_follow_from_the_past ?fair).2⟩
  refine ⟨by unfold Distinct; decide, by unfold Apart; decide +kernel, by decide, by decide, ?_⟩
  intro t ht u
  simp only [exchangedOnce, exchangedAgain, List.cons_append, List.nil_append, List.mem_cons,
    List.not_mem_nil, or_false] at ht
  rcases ht with rfl | rfl | rfl | rfl <;> exact ⟨_, rfl⟩

end TenantAuth.Refresh
