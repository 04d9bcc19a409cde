-- The store of sessions in memory, call after call, in any order and at any times. Every
-- session stays under its own hash and no user has two. A call takes out what is over and
-- what it is about, and nothing else, and it says what it took out.

import TenantAuth.Proofs.Session.Interleaving

namespace TenantAuth

open Refresh (OnePerUser onePerUser_keep onePerUser_file)

/-! ## Tables in order -/

namespace SessionTable

/-- Every session is filed under its own hash, and no user has two. -/
structure WellFiled (t : SessionTable) : Prop where
  keyed : ∀ e ∈ t.entries, e.1 = e.2.tokenHash
  onePerUser : OnePerUser t

theorem wellFiled_empty : WellFiled .empty := ⟨fun _ he => (List.not_mem_nil he).elim, .nil⟩

namespace WellFiled

variable {t : SessionTable} {s : Session} (h : t.WellFiled)

include h

theorem keep (p : String → Session → Bool) : WellFiled (t.keep p) :=
  ⟨fun e he => h.keyed e (Keyed.mem_entries_keep.mp he).1, onePerUser_keep p h.onePerUser⟩

theorem file (s : Session) : WellFiled (t.file s) := by
  refine ⟨fun e he => ?_, onePerUser_file s h.onePerUser⟩
  rcases Keyed.mem_entries_put.mp he with rfl | ⟨he, -⟩
  · rfl
  · exact h.keyed e (Keyed.mem_entries_keep.mp he).1

theorem find?_eq_some_iff {hash : String} :
    t.find? hash = some s ↔ s ∈ t.values ∧ s.tokenHash = hash :=
  Keyed.find?_eq_some_iff_of_keyed h.keyed

theorem mem_values_iff : s ∈ t.values ↔ (s.tokenHash, s) ∈ t.entries := by
  rw [← Keyed.find?_eq_some_iff, h.find?_eq_some_iff, and_iff_left rfl]

theorem mem_keep {p : String → Session → Bool} :
    s ∈ (t.keep p).values ↔ s ∈ t.values ∧ p s.tokenHash s = true := by
  rw [(h.keep p).mem_values_iff, h.mem_values_iff, Keyed.mem_entries_keep]

theorem mem_live {now : Instant} :
    s ∈ (t.live now).values ↔ s ∈ t.values ∧ s.isExpiredAt now = false := by
  rw [live, h.mem_keep, Bool.not_eq_true']

theorem mem_withoutUser {u : UserId} : s ∈ (t.withoutUser u).values ↔ s ∈ t.values ∧ s.user ≠ u := by
  rw [withoutUser, h.mem_keep, decide_eq_true_eq]

theorem mem_erase {hash : String} :
    s ∈ Keyed.values (t.erase hash) ↔ s ∈ t.values ∧ s.tokenHash ≠ hash := by
  rw [Keyed.erase, h.mem_keep, decide_eq_true_eq]

/-- The session filed last takes the place of those of its user and of its hash. -/
theorem mem_file {new : Session} :
    s ∈ (t.file new).values ↔
      s = new ∨ s ∈ t.values ∧ s.user ≠ new.user ∧ s.tokenHash ≠ new.tokenHash := by
  have hrest : WellFiled (t.withoutUser new.user) := h.keep _
  rw [(h.file new).mem_values_iff, SessionTable.file, Keyed.mem_entries_put,
    ← hrest.mem_values_iff, h.mem_withoutUser, and_assoc]
  refine or_congr_left ⟨fun heq => congrArg Prod.snd heq, ?_⟩
  rintro rfl
  rfl

end WellFiled

end SessionTable

/-! ## What a call is about -/

namespace SessionCall

/-- The time at which a call sweeps, if it does. -/
def sweepsAt? : SessionCall → Option Instant
  | .replace s => some s.createdAt
  | .findByHash _ now | .rotate _ _ _ now | .sweepExpired now => some now
  | .deleteByHash _ | .deleteForUser _ | .ping => none

/-- The hash whose session a call is to take out. -/
def takesOut? : SessionCall → Option String
  | .rotate hash .. | .deleteByHash hash => some hash
  | _ => none

/-- The session that a rotation of this table exchanges. -/
def exchanged? (t : SessionTable) : SessionCall → Option Session
  | .rotate hash _ _ now => (t.live now).find? hash
  | _ => none

/-- The user whose session a call is about, by the table that it finds. -/
def user? (t : SessionTable) : SessionCall → Option UserId
  | .replace s => some s.user
  | .deleteForUser u => some u
  | c => (c.exchanged? t).map (·.user)

/-- The hash under which a call files a session, by the table that it finds. -/
def files? (t : SessionTable) : SessionCall → Option String
  | .replace s => some s.tokenHash
  | .rotate hash newHash newId now =>
    ((SessionCall.rotate hash newHash newId now).exchanged? t).map fun _ => newHash
  | _ => none

/-- The calendar reaches seven days on from the time of a rotation. -/
def InCalendar : SessionCall → Prop
  | .rotate _ _ _ now => (now.add? Session.lifetime).isSome
  | _ => True

instance : (c : SessionCall) → Decidable c.InCalendar
  | .rotate _ _ _ now => inferInstanceAs (Decidable ((now.add? Session.lifetime).isSome = true))
  | .replace _ | .findByHash .. | .deleteByHash _ | .deleteForUser _ | .sweepExpired _ | .ping =>
    .isTrue trivial

/-- The reply says what is gone: whether something is, or how much. -/
def Tells : (c : SessionCall) → c.Answer → List Session → Prop
  | .deleteByHash _, yes, gone | .deleteForUser _, yes, gone => yes = true ↔ gone ≠ []
  | .sweepExpired _, count, gone => count = gone.length
  | _, _, _ => True

end SessionCall

namespace SessionTable

/-- The sessions of a table that are not in a later one. -/
def gone (t t' : SessionTable) : List Session := t.values.filter fun s => s ∉ t'.values

/-- What a call leaves of a table, and that it says what it took out. -/
structure Accounted (c : SessionCall) (t : SessionTable) (a : c.Answer) (t' : SessionTable) :
    Prop where
  /-- After a sweep nothing is over, but for the session that a replacement files. -/
  swept : ∀ now, c.sweepsAt? = some now → ∀ s ∈ t'.values, s.expiresAt ≤ now → c = .replace s
  /-- Nothing of another user goes but what is over and what has the hash of the call. -/
  spared : ∀ s ∈ t.gone t', c.user? t ≠ some s.user →
    (∃ now, c.sweepsAt? = some now ∧ s.expiresAt ≤ now) ∨
      c.takesOut? = some s.tokenHash ∨ c.files? t = some s.tokenHash
  tells : c.Tells a (t.gone t')

variable {t : SessionTable}

theorem mem_gone {t' : SessionTable} {s : Session} : s ∈ t.gone t' ↔ s ∈ t.values ∧ s ∉ t'.values := by
  simp [gone]

/-- What is taken out is counted by what is left. -/
theorem size_keep_add (h : t.WellFiled) (q : Session → Bool) :
    (t.keep fun _ s => q s).size + (t.gone (t.keep fun _ s => q s)).length = t.size := by
  have hgone : t.gone (t.keep fun _ s => q s) = t.values.filter fun s => !q s := by
    refine List.filter_congr fun s hs => ?_
    simp [h.mem_keep, hs]
  have hlength := List.length_eq_length_filter_add (l := t.entries) fun e => q e.2
  rw [hgone, Keyed.values, List.filter_map, List.length_map]
  exact hlength.symm

/-- What a sweep takes out is over. -/
theorem isExpiredAt_of_mem_gone_live (h : t.WellFiled) {now : Instant} {s : Session}
    (hs : s ∈ t.gone (t.live now)) : s.expiresAt ≤ now := by
  obtain ⟨hmem, hnot⟩ := mem_gone.mp hs
  rw [h.mem_live, not_and, Bool.not_eq_false] at hnot
  exact of_decide_eq_true (hnot hmem)

theorem not_expiresAt_le_of_mem_live (h : t.WellFiled) {now : Instant} {s : Session}
    (hs : s ∈ (t.live now).values) : ¬ s.expiresAt ≤ now :=
  of_decide_eq_false (h.mem_live.mp hs).2

/-! ## One call -/

theorem accounted_replace (h : t.WellFiled) (new : Session) :
    Accounted (.replace new) t () ((t.live new.createdAt).file new) := by
  have hlive : WellFiled (t.live new.createdAt) := h.keep _
  refine ⟨?_, ?_, trivial⟩
  · rintro now ⟨⟩ s hs hover
    rcases hlive.mem_file.mp hs with rfl | ⟨hs, -⟩
    · rfl
    · exact absurd hover (not_expiresAt_le_of_mem_live h hs)
  · intro s hs huser
    obtain ⟨hmem, hnot⟩ := mem_gone.mp hs
    by_cases hover : s.expiresAt ≤ new.createdAt
    · exact Or.inl ⟨_, rfl, hover⟩
    · refine Or.inr (Or.inr (congrArg some ?_))
      by_contra hhash
      refine hnot (hlive.mem_file.mpr (Or.inr ⟨h.mem_live.mpr ⟨hmem, decide_eq_false hover⟩, ?_, ?_⟩))
      · exact fun heq => huser (congrArg some heq.symm)
      · exact fun heq => hhash heq.symm

/-- A call that only sweeps. -/
theorem accounted_live (h : t.WellFiled) {c : SessionCall} {now : Instant} {a : c.Answer}
    (hnow : c.sweepsAt? = some now) (htells : c.Tells a (t.gone (t.live now))) :
    Accounted c t a (t.live now) := by
  refine ⟨?_, fun s hs _ => Or.inl ⟨now, hnow, isExpiredAt_of_mem_gone_live h hs⟩, htells⟩
  intro now' hnow' s hs hover
  cases hnow.symm.trans hnow'
  exact absurd hover (not_expiresAt_le_of_mem_live h hs)

theorem accounted_rotate (h : t.WellFiled) {hash newHash : String} {newId : SessionId}
    {now : Instant} {consumed next : Session} (hfind : (t.live now).find? hash = some consumed)
    (hnext : Session.fresh? newId consumed.user newHash now = some next) :
    Accounted (.rotate hash newHash newId now) t (some consumed)
      (SessionTable.file ((t.live now).erase hash) next) := by
  have hlive : WellFiled (t.live now) := h.keep _
  have hrest : WellFiled ((t.live now).erase hash) := hlive.keep _
  obtain ⟨expiry, hexpiry, rfl⟩ := Session.fresh?_eq_some_iff.mp hnext
  refine ⟨?_, ?_, trivial⟩
  · rintro now' ⟨⟩ s hs hover
    rcases hrest.mem_file.mp hs with rfl | ⟨hs, -⟩
    · have hlater : expiry.nanos ≤ now.nanos := hover
      unfold Session.lifetime at hexpiry
      omega
    · exact absurd hover (not_expiresAt_le_of_mem_live h (hlive.mem_erase.mp hs).1)
  · intro s hs huser
    obtain ⟨hmem, hnot⟩ := mem_gone.mp hs
    by_cases hover : s.expiresAt ≤ now
    · exact Or.inl ⟨now, rfl, hover⟩
    · refine Or.inr ?_
      by_cases hold : s.tokenHash = hash
      · exact Or.inl (congrArg some hold.symm)
      · refine Or.inr ?_
        simp only [SessionCall.user?, SessionCall.files?, SessionCall.exchanged?, hfind,
          Option.map_some] at huser ⊢
        refine congrArg some ?_
        by_contra hnew
        have hleft := hlive.mem_erase.mpr ⟨h.mem_live.mpr ⟨hmem, decide_eq_false hover⟩, hold⟩
        refine hnot (hrest.mem_file.mpr (Or.inr ⟨hleft, ?_, ?_⟩))
        · exact fun heq => huser (congrArg some heq.symm)
        · exact fun heq => hnew heq.symm

theorem accounted_deleteByHash (h : t.WellFiled) (hash : String) :
    Accounted (.deleteByHash hash) t (t.find? hash).isSome (t.erase hash) := by
  have hgone : ∀ s, s ∈ t.gone (t.erase hash) ↔ s ∈ t.values ∧ s.tokenHash = hash := by
    intro s
    rw [mem_gone, h.mem_erase]
    refine and_congr_right fun hs => ?_
    simp [hs]
  refine ⟨fun _ hnow => ?_, fun s hs _ => ?_, ?_⟩
  · cases hnow
  · exact Or.inr (Or.inl (congrArg some ((hgone s).mp hs).2.symm))
  · change (t.find? hash).isSome = true ↔ t.gone (t.erase hash) ≠ []
    rw [Option.isSome_iff_exists, ← List.length_pos_iff, List.length_pos_iff_exists_mem]
    exact exists_congr fun s => h.find?_eq_some_iff.trans (hgone s).symm

theorem accounted_deleteForUser (h : t.WellFiled) (user : UserId) :
    Accounted (.deleteForUser user) t (decide ((t.withoutUser user).size < t.size))
      (t.withoutUser user) := by
  refine ⟨fun _ hnow => ?_, fun s hs huser => ?_, ?_⟩
  · cases hnow
  · obtain ⟨hmem, hnot⟩ := mem_gone.mp hs
    exact absurd (h.mem_withoutUser.mpr ⟨hmem, fun heq => huser (congrArg some heq.symm)⟩) hnot
  · have hsize := size_keep_add h fun s => s.user ≠ user
    change decide ((t.withoutUser user).size < t.size) = true ↔ t.gone (t.withoutUser user) ≠ []
    rw [decide_eq_true_eq, ← List.length_pos_iff]
    unfold withoutUser
    omega

theorem accounted_sweepExpired (h : t.WellFiled) (now : Instant) :
    Accounted (.sweepExpired now) t (t.size - (t.live now).size) (t.live now) := by
  refine accounted_live h rfl ?_
  have hsize := size_keep_add h fun s => !s.isExpiredAt now
  change t.size - (t.live now).size = (t.gone (t.live now)).length
  unfold live
  omega

/-- A call is answered, keeps the table in order and says what it took out. -/
theorem accounted_answer (h : t.WellFiled) {c : SessionCall} (hc : c.InCalendar) :
    ∃ a t', t.answer c = (some a, t') ∧ t'.WellFiled ∧ Accounted c t a t' := by
  cases c with
  | replace new => exact ⟨_, _, rfl, (h.keep _).file new, accounted_replace h new⟩
  | findByHash hash now => exact ⟨_, _, rfl, h.keep _, accounted_live h rfl trivial⟩
  | rotate hash newHash newId now =>
    cases hfind : (t.live now).find? hash with
    | none =>
      refine ⟨none, t.live now, ?_, h.keep _, accounted_live h rfl trivial⟩
      simp only [answer, hfind]
    | some consumed =>
      obtain ⟨next, hnext⟩ := Session.fresh?_of_add? newId consumed.user newHash hc
      refine ⟨some consumed, SessionTable.file ((t.live now).erase hash) next, ?_,
        WellFiled.file ((h.keep _).keep _) next, accounted_rotate h hfind hnext⟩
      simp only [answer, hfind, not_expired_of_find?_live hfind, Bool.false_eq_true, if_false, hnext]
  | deleteByHash hash => exact ⟨_, _, rfl, h.keep _, accounted_deleteByHash h hash⟩
  | deleteForUser user => exact ⟨_, _, rfl, h.keep _, accounted_deleteForUser h user⟩
  | sweepExpired now => exact ⟨_, _, rfl, h.keep _, accounted_sweepExpired h now⟩
  | ping =>
    refine ⟨(), t, rfl, h, fun _ hnow => ?_, fun s hs _ => ?_, trivial⟩
    · cases hnow
    · exact absurd (mem_gone.mp hs).1 (mem_gone.mp hs).2

end SessionTable

/-! ## Call after call -/

namespace SessionMemory

/-- The store after calls, the first of them to an empty store. -/
def after (past : List SessionCall) : SessionMemory := past.foldl (fun m c => (m.answer c).2) .empty

theorem after_snoc (past : List SessionCall) (c : SessionCall) :
    after (past ++ [c]) = ((after past).answer c).2 := by simp [after]

theorem open_of_not_locked {m : SessionMemory} (h : m.locked = false) : m = ⟨m.table, false⟩ := by
  rw [← h]

theorem wellFiled_after {past : List SessionCall} (h : ∀ c ∈ past, c.InCalendar) :
    (after past).locked = false ∧ (after past).table.WellFiled := by
  induction past using List.reverseRecOn with
  | nil => exact ⟨rfl, SessionTable.wellFiled_empty⟩
  | append_singleton past c ih =>
    obtain ⟨hlocked, hfiled⟩ := ih fun c' hc' => h c' (List.mem_append_left _ hc')
    obtain ⟨a, t', ha, ht', -⟩ := SessionTable.accounted_answer hfiled (h c (by simp))
    rw [after_snoc, open_of_not_locked hlocked, answer_of_table ha]
    exact ⟨rfl, ht'⟩

/-- After calls of any kind, in any order and at any times, as long as no rotation is so
late that its new session would end past the calendar: every session is filed under its own
hash and no user has two. The next call is answered, leaves the store so, takes out nothing
that it may not, and says what it took out. -/
theorem calls_leave_the_store_in_order {past : List SessionCall} {c : SessionCall}
    (h : ∀ c' ∈ past ++ [c], c'.InCalendar) :
    (after past).table.WellFiled ∧ (after (past ++ [c])).table.WellFiled ∧
      ∃ a, ((after past).answer c).1 = some (.ok a) ∧
        SessionTable.Accounted c (after past).table a (after (past ++ [c])).table := by
  obtain ⟨hlocked, hfiled⟩ := wellFiled_after fun c' hc' => h c' (List.mem_append_left [c] hc')
  obtain ⟨-, hfiled'⟩ := wellFiled_after h
  obtain ⟨a, t', ha, -, haccounted⟩ := SessionTable.accounted_answer hfiled (h c (by simp))
  have hanswer : (after past).answer c = (some (.ok a), ⟨t', false⟩) := by
    rw [open_of_not_locked hlocked, answer_of_table ha]
  refine ⟨hfiled, hfiled', a, congrArg Prod.fst hanswer, ?_⟩
  rw [after_snoc, hanswer]
  exact haccounted

/-- A session of one user, and one of another. -/
def first : Session := ⟨⟨.ofNat 1⟩, ⟨.ofNat 11⟩, "a", Instant.epoch.addCapped 5, .epoch⟩
def second : Session := ⟨⟨.ofNat 2⟩, ⟨.ofNat 12⟩, "b", Instant.epoch.addCapped 9, .epoch⟩

/-- The first secret is exchanged for one with the hash of the second. -/
def collision : SessionCall := .rotate "a" "b" ⟨.ofNat 3⟩ (Instant.epoch.addCapped 4)

theorem calls_leave_the_store_in_order_of_a_collision :
    (∀ c ∈ [.replace first, .replace second] ++ [collision], c.InCalendar) ∧
      (after [.replace first, .replace second, collision]).table.WellFiled ∧
      ∃ a, ((after [.replace first, .replace second]).answer collision).1 = some (.ok a) ∧
        SessionTable.Accounted collision (after [.replace first, .replace second]).table a
          (after [.replace first, .replace second, collision]).table := by
  have h : ∀ c ∈ [.replace first, .replace second] ++ [collision], c.InCalendar := by decide
  exact ⟨h, (calls_leave_the_store_in_order h).2⟩

end SessionMemory

end TenantAuth
