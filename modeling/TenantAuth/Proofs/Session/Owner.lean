-- Whose session a secret finds. The table of sessions is looked at through one
-- question only: which user a secret stands for at a time. Each operation on the
-- table is described by what it does to the answers to that question.

import Mathlib.Data.List.Basic
import TenantAuth.Session.Store

namespace TenantAuth

/-! ## Fresh sessions -/

namespace Session

theorem fresh?_eq_some_iff {id : SessionId} {user : UserId} {hash : String} {now : Instant}
    {s : Session} :
    fresh? id user hash now = some s ↔
      ∃ e, e.nanos = now.nanos + lifetime ∧ s = ⟨id, user, hash, e, now⟩ := by
  unfold fresh?
  rw [Option.map_eq_some_iff]
  constructor
  · rintro ⟨e, he, rfl⟩
    exact ⟨e, Instant.add?_eq_some_iff.mp he, rfl⟩
  · rintro ⟨e, he, rfl⟩
    exact ⟨e, Instant.add?_eq_some_iff.mpr he, rfl⟩

/-- A session begins wherever the calendar reaches seven days on. -/
theorem fresh?_of_add? (id : SessionId) (user : UserId) (hash : String) {now : Instant}
    (h : (now.add? lifetime).isSome) : ∃ s, fresh? id user hash now = some s := by
  obtain ⟨e, he⟩ := Option.isSome_iff_exists.mp h
  exact ⟨⟨id, user, hash, e, now⟩, by simp [fresh?, he]⟩

/-- What a session is begun with. -/
theorem fields_of_fresh? {id : SessionId} {user : UserId} {hash : String} {now : Instant}
    {s : Session} (h : fresh? id user hash now = some s) :
    s.user = user ∧ s.tokenHash = hash ∧ s.createdAt = now := by
  obtain ⟨e, _, rfl⟩ := fresh?_eq_some_iff.mp h
  exact ⟨rfl, rfl, rfl⟩

/-- What is over stays over. -/
theorem isExpiredAt_mono {s : Session} {t now : Instant} (h : t ≤ now)
    (hs : s.isExpiredAt t = true) : s.isExpiredAt now = true := by
  simp only [isExpiredAt, decide_eq_true_eq, Instant.le_def] at *
  omega

end Session

namespace SessionTable

/-- The user whose session the secret finds at a time. -/
def owner? (t : SessionTable) (secret : String) (now : Instant) : Option UserId :=
  ((t.live now).find? (Secret.hash secret)).map (·.user)

theorem find?_live (t : SessionTable) (now : Instant) (hash : String) :
    (t.live now).find? hash = (t.find? hash).filter fun s => !s.isExpiredAt now :=
  Keyed.find?_keep t _ hash

theorem find?_withoutUser (t : SessionTable) (u : UserId) (hash : String) :
    (t.withoutUser u).find? hash = (t.find? hash).filter fun s => s.user ≠ u :=
  Keyed.find?_keep t _ hash

/-- What is found after a sweep is not over. -/
theorem not_expired_of_find?_live {t : SessionTable} {now : Instant} {hash : String} {s : Session}
    (h : (t.live now).find? hash = some s) : s.isExpiredAt now = false := by
  rw [find?_live, Option.filter_eq_some_iff] at h
  simpa using h.2

/-! ## What a rotation is answered -/

section

variable {t : SessionTable} {hash newHash : String} {newId : SessionId} {now : Instant}
  {consumed next : Session}

theorem answer_rotate_of_absent (h : (t.live now).find? hash = none) :
    t.answer (.rotate hash newHash newId now) = (some none, t.live now) := by
  simp only [answer, h]

theorem answer_rotate_of_found (h : (t.live now).find? hash = some consumed)
    (hnext : Session.fresh? newId consumed.user newHash now = some next) :
    t.answer (.rotate hash newHash newId now) =
      (some (some consumed), file ((t.live now).erase hash) next) := by
  simp [answer, h, not_expired_of_find?_live h, hnext]

theorem answer_rotate_of_late (h : (t.live now).find? hash = some consumed)
    (hnext : Session.fresh? newId consumed.user newHash now = none) :
    t.answer (.rotate hash newHash newId now) =
      (none, withoutUser ((t.live now).erase hash) consumed.user) := by
  simp [answer, h, not_expired_of_find?_live h, hnext]

end

/-! ## What the operations do to the owner of a secret -/

@[simp] theorem owner?_empty (secret : String) (now : Instant) :
    owner? (.empty : SessionTable) secret now = none := rfl

/-- A sweep takes out nothing that would still be found later. -/
theorem owner?_live (t : SessionTable) (secret : String) {start now : Instant} (h : start ≤ now) :
    (t.live start).owner? secret now = t.owner? secret now := by
  unfold owner?
  rw [find?_live, find?_live, find?_live, Option.filter_filter]
  congr 2
  funext s
  cases hs : s.isExpiredAt start with
  | false => simp
  | true => simp [Session.isExpiredAt_mono h hs]

theorem owner?_withoutUser (t : SessionTable) (u : UserId) (secret : String) (now : Instant) :
    (t.withoutUser u).owner? secret now = (t.owner? secret now).filter (· ≠ u) := by
  unfold owner?
  rw [find?_live, find?_live, find?_withoutUser]
  rcases t.find? (Secret.hash secret) with _ | s
  · rfl
  · by_cases hu : s.user = u <;> by_cases hs : s.isExpiredAt now <;>
      simp [Option.filter_some, hu, hs]

theorem owner?_erase (t : SessionTable) (hash secret : String) (now : Instant) :
    SessionTable.owner? (t.erase hash) secret now =
      if Secret.hash secret = hash then none else t.owner? secret now := by
  unfold owner?
  rw [find?_live, find?_live, Keyed.find?_erase]
  split <;> rfl

theorem owner?_file (t : SessionTable) (s : Session) (secret : String) (now : Instant) :
    (t.file s).owner? secret now =
      if Secret.hash secret = s.tokenHash then
        if s.isExpiredAt now then none else some s.user
      else (t.owner? secret now).filter (· ≠ s.user) := by
  by_cases h : Secret.hash secret = s.tokenHash
  · by_cases hs : s.isExpiredAt now <;>
      simp [owner?, find?_live, file, Keyed.find?_put, h, hs]
  · rw [if_neg h, ← owner?_withoutUser]
    simp [owner?, find?_live, file, Keyed.find?_put, h]

end SessionTable

end TenantAuth
