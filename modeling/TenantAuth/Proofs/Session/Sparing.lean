-- One call on the sessions in memory, as it looks to all the others. Nothing comes in but under the
-- hash that the call brings, and a session that the call neither names nor finds over stays.

import Mathlib.Data.List.Nodup
import TenantAuth.Proofs.Session.Filing

namespace TenantAuth

namespace SessionCall

/-- The hash under which a call is to file a session. -/
def newHash? : SessionCall → Option String
  | .replace s => some s.tokenHash
  | .rotate _ newHash _ _ => some newHash
  | _ => none

/-- The call is about the session that a user has under a hash: it begins another one for the
user, exchanges the hash, or takes out what is under the one or of the other. -/
def Touches (user : UserId) (hash : String) : SessionCall → Prop
  | .replace s => s.user = user
  | .rotate taken .. | .deleteByHash taken => taken = hash
  | .deleteForUser u => u = user
  | .findByHash .. | .sweepExpired _ | .ping => False

instance (user : UserId) (hash : String) : DecidablePred (Touches user hash)
  | .replace s => inferInstanceAs (Decidable (s.user = user))
  | .rotate taken _ _ _ | .deleteByHash taken => inferInstanceAs (Decidable (taken = hash))
  | .deleteForUser u => inferInstanceAs (Decidable (u = user))
  | .findByHash _ _ | .sweepExpired _ | .ping => inferInstanceAs (Decidable False)

end SessionCall

namespace SessionTable

/-- What any call leaves of a table, also one that breaks down. -/
structure Passed (c : SessionCall) (t t' : SessionTable) : Prop where
  wellFiled : t'.WellFiled
  /-- What is there was there before, or came in under the hash of the call. -/
  origin : ∀ s ∈ t'.values, s ∈ t.values ∨ c.newHash? = some s.tokenHash
  spared : ∀ s ∈ t.values, ¬ c.Touches s.user s.tokenHash → c.newHash? ≠ some s.tokenHash →
    (∀ now, c.sweepsAt? = some now → s.isExpiredAt now = false) → s ∈ t'.values

variable {t : SessionTable}

theorem WellFiled.eq_of_user_eq (h : t.WellFiled) {s s' : Session} (hs : s ∈ t.values)
    (hs' : s' ∈ t.values) (huser : s.user = s'.user) : s = s' :=
  List.inj_on_of_nodup_map h.onePerUser hs hs' huser

theorem passed_self (h : t.WellFiled) (c : SessionCall) : Passed c t t :=
  ⟨h, fun _ hs => Or.inl hs, fun _ hs _ _ _ => hs⟩

theorem passed_live (h : t.WellFiled) {c : SessionCall} {now : Instant}
    (hnow : c.sweepsAt? = some now) : Passed c t (t.live now) where
  wellFiled := h.keep _
  origin _ hs := Or.inl (h.mem_live.mp hs).1
  spared _ hs _ _ hlive := h.mem_live.mpr ⟨hs, hlive now hnow⟩

theorem passed_replace (h : t.WellFiled) (new : Session) :
    Passed (.replace new) t ((t.live new.createdAt).file new) := by
  have hlive : WellFiled (t.live new.createdAt) := h.keep _
  refine ⟨hlive.file new, fun s hs => ?_, fun s hs htouches hhash hover => ?_⟩
  · rcases hlive.mem_file.mp hs with rfl | ⟨hs, -⟩
    · exact Or.inr rfl
    · exact Or.inl (h.mem_live.mp hs).1
  · refine hlive.mem_file.mpr (Or.inr ⟨h.mem_live.mpr ⟨hs, hover _ rfl⟩, ?_, ?_⟩)
    · exact fun heq => htouches heq.symm
    · exact fun heq => hhash (congrArg some heq.symm)

/-- Whoever is there under another hash than the one that is exchanged has another user, for no user
has two sessions. -/
theorem WellFiled.left_of_found (h : t.WellFiled) {hash : String} {now : Instant}
    {consumed s : Session} (hfind : (t.live now).find? hash = some consumed) (hs : s ∈ t.values)
    (hne : hash ≠ s.tokenHash) (hover : s.isExpiredAt now = false) :
    s ∈ Keyed.values ((t.live now).erase hash) ∧ s.user ≠ consumed.user := by
  have hlive : WellFiled (t.live now) := h.keep _
  have hmem : s ∈ (t.live now).values := h.mem_live.mpr ⟨hs, hover⟩
  obtain ⟨hconsumed, htaken⟩ := hlive.find?_eq_some_iff.mp hfind
  refine ⟨hlive.mem_erase.mpr ⟨hmem, Ne.symm hne⟩, fun huser => hne ?_⟩
  rw [hlive.eq_of_user_eq hmem hconsumed huser, htaken]

/-- What a rotation exchanges is taken out, and with it nothing but what its user has. -/
theorem passed_rotate (h : t.WellFiled) {hash newHash : String} {newId : SessionId} {now : Instant}
    {reply : Option (Option Session)} {t' : SessionTable}
    (hanswer : t.answer (.rotate hash newHash newId now) = (reply, t')) :
    Passed (.rotate hash newHash newId now) t t' := by
  have hlive : WellFiled (t.live now) := h.keep _
  have hrest : WellFiled ((t.live now).erase hash) := hlive.keep _
  cases hfind : (t.live now).find? hash with
  | none =>
    cases (answer_rotate_of_absent hfind).symm.trans hanswer
    exact passed_live h rfl
  | some consumed =>
    have hbefore : ∀ s ∈ Keyed.values ((t.live now).erase hash), s ∈ t.values := fun s hs =>
      (h.mem_live.mp (hlive.mem_erase.mp hs).1).1
    cases hnext : Session.fresh? newId consumed.user newHash now with
    | none =>
      cases (answer_rotate_of_late hfind hnext).symm.trans hanswer
      refine ⟨hrest.keep _, fun s hs => Or.inl (hbefore s (hrest.mem_withoutUser.mp hs).1), ?_⟩
      intro s hs htouches hhash hover
      exact hrest.mem_withoutUser.mpr (h.left_of_found hfind hs htouches (hover now rfl))
    | some next =>
      cases (answer_rotate_of_found hfind hnext).symm.trans hanswer
      obtain ⟨huser, hnew, -⟩ := Session.fields_of_fresh? hnext
      refine ⟨hrest.file next, fun s hs => ?_, fun s hs htouches hhash hover => ?_⟩
      · rcases hrest.mem_file.mp hs with rfl | ⟨hs, -⟩
        · exact Or.inr (congrArg some hnew.symm)
        · exact Or.inl (hbefore s hs)
      · obtain ⟨hmem, hother⟩ := h.left_of_found hfind hs htouches (hover now rfl)
        refine hrest.mem_file.mpr (Or.inr ⟨hmem, huser ▸ hother, fun heq => hhash ?_⟩)
        exact congrArg some (hnew.symm.trans heq.symm)

theorem passed_answer (h : t.WellFiled) {c : SessionCall} {reply : Option c.Answer}
    {t' : SessionTable} (hanswer : t.answer c = (reply, t')) : Passed c t t' := by
  cases c with
  | rotate hash newHash newId now => exact passed_rotate h hanswer
  | replace new =>
    cases hanswer
    exact passed_replace h new
  | findByHash hash now =>
    cases hanswer
    exact passed_live h rfl
  | sweepExpired now =>
    cases hanswer
    exact passed_live h rfl
  | deleteByHash hash =>
    cases hanswer
    refine ⟨h.keep _, fun s hs => Or.inl (h.mem_erase.mp hs).1, fun s hs htouches _ _ => ?_⟩
    exact h.mem_erase.mpr ⟨hs, fun heq => htouches heq.symm⟩
  | deleteForUser user =>
    cases hanswer
    refine ⟨h.keep _, fun s hs => Or.inl (h.mem_withoutUser.mp hs).1, fun s hs htouches _ _ => ?_⟩
    exact h.mem_withoutUser.mpr ⟨hs, fun heq => htouches heq.symm⟩
  | ping =>
    cases hanswer
    exact passed_self h .ping

end SessionTable

namespace SessionMemory

theorem passed {m : SessionMemory} (h : m.table.WellFiled) (c : SessionCall) :
    SessionTable.Passed c m.table (m.answer c).2.table := by
  rcases hanswer : m.answer c with ⟨reply, m'⟩
  rcases Refresh.answer_cases hanswer with ⟨-, rfl⟩ | ⟨r, t', locked, htable, -, rfl⟩
  · exact SessionTable.passed_self h c
  · exact SessionTable.passed_answer h htable

/-- Only a rotation whose session would end past the calendar breaks the store. -/
theorem open_answer {m : SessionMemory} (h : m.table.WellFiled) {c : SessionCall}
    (hopen : m.locked = false) (hc : c.InCalendar) : (m.answer c).2.locked = false := by
  obtain ⟨a, t', ha, -⟩ := SessionTable.accounted_answer h hc
  rw [open_of_not_locked hopen, answer_of_table ha]

end SessionMemory

end TenantAuth
