-- A session that is over is not honoured, whatever the stores answer: not where its secret is
-- presented, not where it is exchanged, and not by a database whose sweep has failed.

import TenantAuth.Proofs.Backend
import TenantAuth.Proofs.Postgres.LateRotation
import TenantAuth.Session.Refresh

namespace TenantAuth.Refresh

open BackendProgram

section

variable {σ : Type} (answer : (c : BackendCall) → σ → Option c.Reply × σ) (s : σ)

/-- What comes of a secret that is presented, by the session that the store hands back. -/
structure ValidatedInTime (secret : String) (now : Instant) : Prop where
  honoured : ∀ p, ((validate secret now).run answer s).1 = some (.ok p) →
    ∃ session s', answer (.sessions (.findByHash (Secret.hash secret) now)) s =
      (some (.ok (some session)), s') ∧ now < session.expiresAt
  /-- The store is asked to delete that very hash, and nothing else is asked. -/
  late : ∀ session s', answer (.sessions (.findByHash (Secret.hash secret) now)) s =
      (some (.ok (some session)), s') → session.expiresAt ≤ now →
    (validate secret now).asked answer s =
      [⟨.sessions (.findByHash (Secret.hash secret) now), some (.ok (some session))⟩,
        ⟨.sessions (.deleteByHash (Secret.hash secret)),
          (answer (.sessions (.deleteByHash (Secret.hash secret))) s').1⟩] ∧
    ((validate secret now).run answer s).1 =
      (answer (.sessions (.deleteByHash (Secret.hash secret))) s').1.map fun
        | .ok _ => .error .expired
        | .error e => .error (.store e)

/-- What comes of a secret that is exchanged, by the session that the store has taken out. -/
structure RotatedInTime (secret next : String) (id : SessionId) (now : Instant) : Prop where
  honoured : ∀ given, ((rotate secret next id now).run answer s).1 = some (.ok given) →
    ∃ consumed s', answer (.sessions (.rotate (Secret.hash secret) (Secret.hash next) id now)) s =
      (some (.ok (some consumed)), s') ∧ now < consumed.expiresAt
  /-- Nothing else is asked, and nothing is given out. -/
  late : ∀ consumed s',
    answer (.sessions (.rotate (Secret.hash secret) (Secret.hash next) id now)) s =
      (some (.ok (some consumed)), s') → consumed.expiresAt ≤ now →
    (rotate secret next id now).asked answer s =
      [⟨.sessions (.rotate (Secret.hash secret) (Secret.hash next) id now),
        some (.ok (some consumed))⟩] ∧
    ((rotate secret next id now).run answer s).1 = some (.error .expired)

end

variable {σ : Type} {answer : (c : BackendCall) → σ → Option c.Reply × σ} {s s' : σ}

theorem isExpiredAt_iff {session : Session} {now : Instant} :
    session.isExpiredAt now = true ↔ session.expiresAt ≤ now := decide_eq_true_iff

theorem live_of_not_over {session : Session} {now : Instant} (h : ¬ session.expiresAt ≤ now) :
    now < session.expiresAt := Int.lt_of_not_ge h

/-! ## Secrets that are presented -/

section

variable {secret : String} {now : Instant}

theorem found_of_validated {p : Principal}
    (h : ((validate secret now).run answer s).1 = some (.ok p)) :
    ∃ session s', answer (.sessions (.findByHash (Secret.hash secret) now)) s =
      (some (.ok (some session)), s') := by
  rcases hreply : answer (.sessions (.findByHash (Secret.hash secret) now)) s with
    ⟨_ | e | _ | session, s'⟩
  · rw [validate, run_session_none hreply] at h
    cases h
  · rw [validate, run_session_some hreply] at h
    cases h
  · rw [validate, run_session_some hreply] at h
    cases h
  · exact ⟨session, s', rfl⟩

theorem validate_over {session : Session}
    (h : answer (.sessions (.findByHash (Secret.hash secret) now)) s =
      (some (.ok (some session)), s')) (hover : session.expiresAt ≤ now) :
    (validate secret now).asked answer s =
      [⟨.sessions (.findByHash (Secret.hash secret) now), some (.ok (some session))⟩,
        ⟨.sessions (.deleteByHash (Secret.hash secret)),
          (answer (.sessions (.deleteByHash (Secret.hash secret))) s').1⟩] ∧
    ((validate secret now).run answer s).1 =
      (answer (.sessions (.deleteByHash (Secret.hash secret))) s').1.map fun
        | .ok _ => .error .expired
        | .error e => .error (.store e) := by
  rw [validate, run_session_some h, asked_session_some h]
  dsimp only
  rw [if_pos (isExpiredAt_iff.mpr hover)]
  rcases hdeleted : answer (.sessions (.deleteByHash (Secret.hash secret))) s' with ⟨_ | e | b, s''⟩
  · rw [run_session_none hdeleted, asked_session_none hdeleted]
    exact ⟨rfl, rfl⟩
  · rw [run_session_some hdeleted, asked_session_some hdeleted]
    exact ⟨rfl, rfl⟩
  · rw [run_session_some hdeleted, asked_session_some hdeleted]
    exact ⟨rfl, rfl⟩

theorem validatedInTime (secret : String) (now : Instant) :
    ValidatedInTime answer s secret now where
  honoured p h := by
    obtain ⟨session, s', hreply⟩ := found_of_validated h
    refine ⟨session, s', hreply, live_of_not_over fun hover => ?_⟩
    rw [(validate_over hreply hover).2] at h
    rcases hdeleted : (answer (.sessions (.deleteByHash (Secret.hash secret))) s').1 with
      _ | e | b <;> rw [hdeleted] at h <;> cases h
  late _ _ := validate_over

end

/-! ## Secrets that are exchanged -/

section

variable {secret next : String} {id : SessionId} {now : Instant}

theorem found_of_rotated {given : String × Principal}
    (h : ((rotate secret next id now).run answer s).1 = some (.ok given)) :
    ∃ consumed s', answer (.sessions (.rotate (Secret.hash secret) (Secret.hash next) id now)) s =
      (some (.ok (some consumed)), s') := by
  rcases hreply : answer (.sessions (.rotate (Secret.hash secret) (Secret.hash next) id now)) s with
    ⟨_ | e | _ | consumed, s'⟩
  · rw [rotate, run_session_none hreply] at h
    cases h
  · rw [rotate, run_session_some hreply] at h
    cases h
  · rw [rotate, run_session_some hreply] at h
    cases h
  · exact ⟨consumed, s', rfl⟩

theorem rotate_over {consumed : Session}
    (h : answer (.sessions (.rotate (Secret.hash secret) (Secret.hash next) id now)) s =
      (some (.ok (some consumed)), s')) (hover : consumed.expiresAt ≤ now) :
    (rotate secret next id now).asked answer s =
      [⟨.sessions (.rotate (Secret.hash secret) (Secret.hash next) id now),
        some (.ok (some consumed))⟩] ∧
    ((rotate secret next id now).run answer s).1 = some (.error .expired) := by
  rw [rotate, run_session_some h, asked_session_some h]
  dsimp only
  rw [if_pos (isExpiredAt_iff.mpr hover)]
  exact ⟨rfl, rfl⟩

theorem rotatedInTime (secret next : String) (id : SessionId) (now : Instant) :
    RotatedInTime answer s secret next id now where
  honoured given h := by
    obtain ⟨consumed, s', hreply⟩ := found_of_rotated h
    refine ⟨consumed, s', hreply, live_of_not_over fun hover => ?_⟩
    rw [(rotate_over hreply hover).2] at h
    cases h
  late _ _ := rotate_over

end

/-! ## In the database as well -/

/-- Whatever the stores answer, a session that is over is never honoured, at the very moment of
its expiry already; and a rotation in the database that takes one out files none. -/
theorem an_expired_session_is_never_honoured [Postgres.TransactionManager]
    (answer : (c : BackendCall) → σ → Option c.Reply × σ) (s : σ) (secret next : String)
    (id : SessionId) (now : Instant) :
    ValidatedInTime answer s secret now ∧ RotatedInTime answer s secret next id now ∧
    ∀ (server : Postgres.Server) (hash newHash : String) (o : Postgres.Outcome)
      (row : Postgres.Row) (consumed : Session),
      ⟨.consumeSession hash, .ok o⟩ ∈
        (server.talk (Postgres.Sessions.answer (.rotate hash newHash id now))).2 →
      o.rows.head? = some row → row.session = .ok consumed → consumed.expiresAt ≤ now →
      Postgres.LateRotation hash newHash now consumed
        (server.talk (Postgres.Sessions.answer (.rotate hash newHash id now))).2
        (server.talk (Postgres.Sessions.answer (.rotate hash newHash id now))).1 :=
  ⟨validatedInTime secret now, rotatedInTime secret next id now,
    fun server _ _ _ _ _ hmem hrow hread hover =>
      Postgres.lateRotation_of_talk server hmem hrow hread hover⟩

/-- The very moment at which the session of `Postgres.rowsFor` ends. -/
def atExpiry : Instant := Instant.epoch.addCapped 2000

/-- A store that hands back a session that ends then, whatever it is asked for. -/
def unsweptStore : (c : BackendCall) → Unit → Option c.Reply × Unit
  | .sessions (.findByHash hash _), u | .sessions (.rotate hash ..), u =>
    (some (.ok (some ⟨⟨.ofNat 1⟩, ⟨.ofNat 2⟩, hash, atExpiry, .epoch⟩)), u)
  | .sessions (.deleteByHash _), u => (some (.ok true), u)
  | _, u => (none, u)

open Postgres.TransactionManager.CountingFirst in
theorem a_session_is_over_at_its_expiry :
    ((validate "s" atExpiry).run unsweptStore ()).1 = some (.error .expired) ∧
    ((rotate "s" "t" ⟨.ofNat 3⟩ atExpiry).run unsweptStore ()).1 = some (.error .expired) ∧
    Postgres.LateRotation "h" "k" atExpiry ⟨⟨.ofNat 1⟩, ⟨.ofNat 2⟩, "h", atExpiry, .epoch⟩
      ((Postgres.refusingServer (· == .release)).talk
        (Postgres.Sessions.answer (.rotate "h" "k" ⟨.ofNat 3⟩ atExpiry))).2
      ((Postgres.refusingServer (· == .release)).talk
        (Postgres.Sessions.answer (.rotate "h" "k" ⟨.ofNat 3⟩ atExpiry))).1 := by
  obtain ⟨hvalidated, hrotated, hlate⟩ :=
    an_expired_session_is_never_honoured unsweptStore () "s" "t" ⟨.ofNat 3⟩ atExpiry
  refine ⟨(hvalidated.late _ _ rfl (Int.le_refl _)).2,
    (hrotated.late _ _ rfl (Int.le_refl _)).2, ?_⟩
  refine hlate _ "h" "k" ⟨Postgres.rowsFor (.consumeSession "h"), 1⟩ _ _ ?_ rfl rfl (Int.le_refl _)
  -- the sixth statement, after the sweep was taken back
  exact .tail _ (.tail _ (.tail _ (.tail _ (.tail _ (.head _)))))

end TenantAuth.Refresh
