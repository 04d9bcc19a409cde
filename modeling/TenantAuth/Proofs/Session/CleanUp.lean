-- A rotation whose user cannot be loaded clears what the user has, and it does so by the user, some
-- steps after it has taken out what its secret had. What it may take out on the way, and which
-- logins of other clients last.

import Mathlib.Data.List.Induction
import TenantAuth.Proofs.Session.Unserved

namespace TenantAuth

/-! ## What is left of a program -/

namespace Program

variable {C : Type} {R : C → Type} {α : Type}

/-- What is left of a program after some calls, first one first, with the replies they got. -/
inductive Left : Program C R α → List (Asked C R) → Program C R α → Prop
  | nil (p : Program C R α) : Left p [] p
  | cons {c : C} {next : R c → Program C R α} {reply : Option (R c)} {past : List (Asked C R)}
      {rest : Program C R α} :
      Left (resume next reply) past rest → Left (.call c next) (⟨c, reply⟩ :: past) rest

theorem Left.snoc {p : Program C R α} {past : List (Asked C R)} {c : C}
    {next : R c → Program C R α} (h : Left p past (.call c next)) (reply : Option (R c)) :
    Left p (past ++ [⟨c, reply⟩]) (resume next reply) := by
  generalize hrest : Program.call c next = rest at h
  induction h with
  | nil p =>
    subst hrest
    exact .cons (.nil _)
  | cons _ ih => exact .cons (ih hrest)

theorem Left.done {a : α} {past : List (Asked C R)} {rest : Program C R α}
    (h : Left (.done a) past rest) : past = [] ∧ rest = .done a := by
  cases h
  exact ⟨rfl, rfl⟩

/-- What has ended has had a reply to each call. -/
theorem Left.replied {c : C} {next : R c → Program C R α} {past : List (Asked C R)} {a : α}
    (h : Left (.call c next) past (.done a)) :
    ∃ r later, past = ⟨c, some r⟩ :: later ∧ Left (next r) later (.done a) := by
  cases h with
  | @cons _ _ reply later _ hrest =>
    cases reply with
    | none => cases hrest
    | some r => exact ⟨r, later, rfl, hrest⟩

end Program

namespace Refresh

/-! ## From one scene to a later one -/

/-- The steps that lead from one scene to another, oldest first. -/
inductive Follows (σ : Scene) : List Event → Scene → Prop
  | nil : Follows σ [] σ
  | snoc {events : List Event} {σ₁ σ₂ : Scene} {e : Event} :
      Follows σ events σ₁ → Step σ₁ e σ₂ → Follows σ (events ++ [e]) σ₂

variable {requests : List Request} {events : List Event} {σ σ₁ σ₂ : Scene} {e : Event} {s : Session}

theorem exists_step_of_snoc (h : Run requests (events ++ [e]) σ) :
    ∃ σ₁, Run requests events σ₁ ∧ Step σ₁ e σ := by
  generalize hsteps : events ++ [e] = steps at h
  cases h with
  | nil => simp at hsteps
  | snoc hrun hstep =>
    obtain ⟨rfl, heq⟩ := List.append_inj' hsteps rfl
    cases heq
    exact ⟨_, hrun, hstep⟩

/-- An interleaving goes through a scene after any of its steps. -/
theorem exists_run_of_append {before after : List Event} (h : Run requests (before ++ after) σ) :
    ∃ σ₁, Run requests before σ₁ ∧ Follows σ₁ after σ := by
  induction after using List.reverseRecOn generalizing σ with
  | nil =>
    rw [List.append_nil] at h
    exact ⟨σ, h, .nil⟩
  | append_singleton after e ih =>
    rw [← List.append_assoc] at h
    obtain ⟨σ₂, hrun, hstep⟩ := exists_step_of_snoc h
    obtain ⟨σ₁, hrun₁, hfollows⟩ := ih hrun
    exact ⟨σ₁, hrun₁, .snoc hfollows hstep⟩

/-- The scenes just before and just after one of the steps. -/
theorem exists_step_of_mid {before after : List Event} (h : Run requests (before ++ e :: after) σ) :
    ∃ σ₁ σ₂, Run requests before σ₁ ∧ Step σ₁ e σ₂ ∧ Follows σ₂ after σ := by
  rw [List.append_cons] at h
  obtain ⟨σ₂, hrun, hfollows⟩ := exists_run_of_append h
  obtain ⟨σ₁, hrun₁, hstep⟩ := exists_step_of_snoc hrun
  exact ⟨σ₁, σ₂, hrun₁, hstep, hfollows⟩

/-! ## What becomes of one session -/

namespace Event

/-- The step filed this very session, in a login or in an exchange. -/
def Files (s : Session) : Event → Prop
  | ⟨_, .sessions (.replace filed), some (.ok _)⟩ => filed = s
  | ⟨_, .sessions (.rotate _ newHash id now), some (.ok (some consumed))⟩ =>
    Session.fresh? id consumed.user newHash now = some s
  | _ => False

/-- The step put an end to the session, unless the store refused it: another one was begun for the
user or filed under the hash, it was exchanged or revoked, or it was over and swept. -/
def Ends (s : Session) : Event → Prop
  | ⟨_, .sessions c, reply⟩ =>
    (∀ failure, reply ≠ some (.error failure)) ∧
      (c.Touches s.user s.tokenHash ∨ c.newHash? = some s.tokenHash ∨
        ∃ now, c.sweepsAt? = some now ∧ s.isExpiredAt now = true)
  | ⟨_, .directory _, _⟩ => False

end Event

theorem wellFiled_step (hstep : Step σ e σ₁) (h : σ.sessions.table.WellFiled) :
    σ₁.sessions.table.WellFiled := by
  obtain @⟨m, m', tasks, i, request, c, next, reply, -, hanswers⟩ := hstep
  cases c with
  | directory c =>
    obtain ⟨-, rfl⟩ := hanswers
    exact h
  | sessions c =>
    have hpassed := SessionMemory.passed h c
    rw [show m.answer c = (reply, m') from hanswers] at hpassed
    exact hpassed.wellFiled

theorem wellFiled_follows (hsteps : Follows σ events σ₁) (h : σ.sessions.table.WellFiled) :
    σ₁.sessions.table.WellFiled := by
  induction hsteps with
  | nil => exact h
  | snoc _ hstep ih => exact wellFiled_step hstep ih

theorem wellFiled_run (h : Run requests events σ) : σ.sessions.table.WellFiled := by
  induction h with
  | nil => exact SessionTable.wellFiled_empty
  | snoc _ hstep ih => exact wellFiled_step hstep ih

/-- A session stays until a step puts an end to it. -/
theorem kept_step (hstep : Step σ e σ₁) (h : σ.sessions.table.WellFiled)
    (hs : s ∈ σ.sessions.table.values) : s ∈ σ₁.sessions.table.values ∨ e.Ends s := by
  obtain @⟨m, m', tasks, i, request, c, next, reply, -, hanswers⟩ := hstep
  cases c with
  | directory c =>
    obtain ⟨-, rfl⟩ := hanswers
    exact .inl hs
  | sessions c =>
    rcases answer_cases hanswers with ⟨-, rfl⟩ | ⟨r, t', locked, htable, rfl, rfl⟩
    · exact .inl hs
    · by_cases hends : Event.Ends s ⟨i, .sessions c, r.map .ok⟩
      · exact .inr hends
      · have hanswered (failure : StoreError) : r.map Except.ok ≠ some (.error failure) := by
          cases r <;> exact nofun
        have hspares := fun h => hends ⟨hanswered, h⟩
        refine .inl ((SessionTable.passed_answer h htable).spared s hs ?_ ?_ fun now hnow => ?_)
        · exact fun htouches => hspares (.inl htouches)
        · exact fun hhash => hspares (.inr (.inl hhash))
        · exact Bool.eq_false_iff.mpr fun hover => hspares (.inr (.inr ⟨now, hnow, hover⟩))

theorem kept_follows (hsteps : Follows σ events σ₁) (h : σ.sessions.table.WellFiled)
    (hs : s ∈ σ.sessions.table.values) :
    s ∈ σ₁.sessions.table.values ∨ ∃ e ∈ events, e.Ends s := by
  induction hsteps with
  | nil => exact .inl hs
  | @snoc events σ₁ σ₂ e hbefore hstep ih =>
    rcases ih with hs | ⟨f, hf, hends⟩
    · rcases kept_step hstep (wellFiled_follows hbefore h) hs with hs | hends
      · exact .inl hs
      · exact .inr ⟨e, List.mem_append_right _ (List.mem_singleton_self e), hends⟩
    · exact .inr ⟨f, List.mem_append_left _ hf, hends⟩

/-- What is there after a rotation was there before, or is the session that it has begun. -/
theorem origin_rotate {t t' : SessionTable} {hash newHash : String} {id : SessionId} {now : Instant}
    {reply : Option (Option Session)} (h : t.WellFiled)
    (hanswer : t.answer (.rotate hash newHash id now) = (reply, t')) (hs : s ∈ t'.values) :
    s ∈ t.values ∨
      ∃ consumed, reply = some (some consumed) ∧
        Session.fresh? id consumed.user newHash now = some s := by
  have hlive : SessionTable.WellFiled (t.live now) := h.keep _
  have hrest : SessionTable.WellFiled ((t.live now).erase hash) := hlive.keep _
  cases hfind : (t.live now).find? hash with
  | none =>
    cases (SessionTable.answer_rotate_of_absent hfind).symm.trans hanswer
    exact .inl (h.mem_live.mp hs).1
  | some consumed =>
    have hbefore (hs : s ∈ Keyed.values ((t.live now).erase hash)) : s ∈ t.values :=
      (h.mem_live.mp (hlive.mem_erase.mp hs).1).1
    cases hfresh : Session.fresh? id consumed.user newHash now with
    | none =>
      cases (SessionTable.answer_rotate_of_late hfind hfresh).symm.trans hanswer
      exact .inl (hbefore (hrest.mem_withoutUser.mp hs).1)
    | some new =>
      cases (SessionTable.answer_rotate_of_found hfind hfresh).symm.trans hanswer
      rcases hrest.mem_file.mp hs with rfl | ⟨hs, -⟩
      · exact .inr ⟨consumed, rfl, hfresh⟩
      · exact .inl (hbefore hs)

/-- What a step files is there after it. -/
theorem filed_step (hstep : Step σ e σ₁) (h : σ.sessions.table.WellFiled) (hfiles : e.Files s) :
    s ∈ σ₁.sessions.table.values := by
  obtain @⟨m, m', tasks, i, request, c, next, reply, -, hanswers⟩ := hstep
  cases c with
  | directory c => exact hfiles.elim
  | sessions c =>
    rcases answer_cases hanswers with ⟨rfl, rfl⟩ | ⟨r, t', locked, htable, rfl, rfl⟩
    · cases c <;> exact hfiles.elim
    · cases c with
      | replace new =>
        cases htable
        have hlive : SessionTable.WellFiled (m.table.live new.createdAt) := h.keep _
        exact hlive.mem_file.mpr (.inl hfiles.symm)
      | rotate hash newHash id now =>
        rcases r with _ | _ | consumed
        · exact hfiles.elim
        · exact hfiles.elim
        · obtain ⟨-, new, hnew, rfl⟩ := (Served.answered htable).exchanged
          cases hnew.symm.trans hfiles
          exact (SessionTable.WellFiled.mem_file ((h.keep _).keep _)).mpr (.inl rfl)
      | _ => exact hfiles.elim

/-- What is there after a step was there before, or the step has filed it. -/
theorem origin_step (hstep : Step σ e σ₁) (h : σ.sessions.table.WellFiled)
    (hs : s ∈ σ₁.sessions.table.values) : s ∈ σ.sessions.table.values ∨ e.Files s := by
  obtain @⟨m, m', tasks, i, request, c, next, reply, -, hanswers⟩ := hstep
  cases c with
  | directory c =>
    obtain ⟨-, rfl⟩ := hanswers
    exact .inl hs
  | sessions c =>
    rcases answer_cases hanswers with ⟨rfl, rfl⟩ | ⟨r, t', locked, htable, rfl, rfl⟩
    · exact .inl hs
    · cases c with
      | replace new =>
        cases htable
        have hlive : SessionTable.WellFiled (m.table.live new.createdAt) := h.keep _
        rcases hlive.mem_file.mp hs with rfl | ⟨hs, -⟩
        · exact .inr rfl
        · exact .inl (h.mem_live.mp hs).1
      | rotate hash newHash id now =>
        rcases origin_rotate h htable hs with hs | ⟨consumed, rfl, hfresh⟩
        · exact .inl hs
        · exact .inr hfresh
      | findByHash hash now =>
        cases htable
        exact .inl (h.mem_live.mp hs).1
      | deleteByHash hash =>
        cases htable
        exact .inl (h.mem_erase.mp hs).1
      | deleteForUser user =>
        cases htable
        exact .inl (h.mem_withoutUser.mp hs).1
      | sweepExpired now =>
        cases htable
        exact .inl (h.mem_live.mp hs).1
      | ping =>
        cases htable
        exact .inl hs

theorem origin_follows (hsteps : Follows σ events σ₁) (h : σ.sessions.table.WellFiled)
    (hs : s ∈ σ₁.sessions.table.values) :
    s ∈ σ.sessions.table.values ∨ ∃ e ∈ events, e.Files s := by
  induction hsteps with
  | nil => exact .inl hs
  | @snoc events σ₁ σ₂ e hbefore hstep ih =>
    have hfiled : σ₁.sessions.table.WellFiled := wellFiled_follows hbefore h
    rcases origin_step hstep hfiled hs with hs | hfiles
    · rcases ih hs with hs | ⟨f, hf, hfiles⟩
      · exact .inl hs
      · exact .inr ⟨f, List.mem_append_left _ hf, hfiles⟩
    · exact .inr ⟨e, List.mem_append_right _ (List.mem_singleton_self e), hfiles⟩

/-- After an exchange the user has nothing but the new session. -/
theorem hash_of_exchanged {i : Nat} {hash newHash : String} {id : SessionId} {now : Instant}
    {consumed : Session} (h : σ.sessions.table.WellFiled)
    (hstep : Step σ ⟨i, .sessions (.rotate hash newHash id now), some (.ok (some consumed))⟩ σ₁)
    (hs : s ∈ σ₁.sessions.table.values) (huser : s.user = consumed.user) :
    s.tokenHash = newHash := by
  cases hstep with
  | call _ hanswers =>
    rcases answer_cases hanswers with ⟨hreply, -⟩ | ⟨r, t', locked, htable, hreply, rfl⟩
    · cases hreply
    · obtain rfl : r = some (some consumed) := by
        rcases r with _ | r
        · cases hreply
        · cases hreply
          rfl
      obtain ⟨-, new, hnew, rfl⟩ := (Served.answered htable).exchanged
      obtain ⟨hnewUser, hnewHash, -⟩ := Session.fields_of_fresh? hnew
      rcases (SessionTable.WellFiled.mem_file ((h.keep _).keep _)).mp hs with rfl | ⟨-, hne, -⟩
      · exact hnewHash
      · exact absurd (huser.trans hnewUser.symm) hne

/-- Clearing what a user has takes out nothing of anybody else. -/
theorem user_of_cleared {i : Nat} {user : UserId}
    {reply : Option (SessionCall.Reply (.deleteForUser user))} (h : σ.sessions.table.WellFiled)
    (hstep : Step σ ⟨i, .sessions (.deleteForUser user), reply⟩ σ₁)
    (hs : s ∈ σ.sessions.table.values) (hgone : s ∉ σ₁.sessions.table.values) : s.user = user := by
  rcases kept_step hstep h hs with hs | ⟨-, htouches | hhash | ⟨now, hnow, -⟩⟩
  · exact absurd hs hgone
  · exact htouches.symm
  · cases hhash
  · cases hnow

/-! ## The steps of one task -/

/-- What a task has asked so far. -/
def stepsOf (i : Nat) (events : List Event) : List (Program.Asked BackendCall BackendCall.Reply) :=
  (events.filter (·.task = i)).map fun e => ⟨e.call, e.reply⟩

theorem stepsOf_snoc (i : Nat) (events : List Event) (e : Event) :
    stepsOf i (events ++ [e]) =
      stepsOf i events ++ if e.task = i then [⟨e.call, e.reply⟩] else [] := by
  unfold stepsOf
  rw [List.filter_append, List.map_append]
  by_cases h : e.task = i <;> simp [h]

theorem filter_task_eq (i : Nat) (events : List Event) :
    events.filter (·.task = i) = (stepsOf i events).map fun a => ⟨i, a.call, a.reply⟩ := by
  induction events with
  | nil => rfl
  | cons e events ih =>
    unfold stepsOf at ih ⊢
    by_cases h : e.task = i
    · subst h
      simp only [decide_true, List.filter_cons_of_pos, List.map_cons, ← ih]
    · rwa [List.filter_cons_of_neg (by simpa using h)]

/-- A task has what is left of the program of its request after its own steps. -/
theorem left_of_task (h : Run requests events σ) {i : Nat} {t : Task} (ht : σ.tasks[i]? = some t) :
    t.request.program.Left (stepsOf i events) t.rest := by
  induction h generalizing t with
  | nil =>
    simp only [Scene.start, List.getElem?_map, Option.map_eq_some_iff] at ht
    obtain ⟨r, -, rfl⟩ := ht
    exact .nil _
  | snoc _ hstep ih =>
    obtain @⟨m, m', tasks, j, request, c, next, reply, hj, -⟩ := hstep
    rw [stepsOf_snoc]
    rw [List.getElem?_set] at ht
    by_cases hij : j = i
    · subst hij
      obtain ⟨hlt, -⟩ := List.getElem?_eq_some_iff.mp hj
      rw [if_pos rfl, if_pos hlt, Option.some.injEq] at ht
      subst ht
      rw [if_pos rfl]
      exact (ih hj).snoc reply
    · rw [if_neg hij] at ht
      rw [if_neg hij, List.append_nil]
      exact ih ht

/-- The steps of a login that is answered with its secret. -/
theorem stepsOf_login {user : UserId} {secret given : String} {id : SessionId} {now : Instant}
    {past : List (Program.Asked BackendCall BackendCall.Reply)}
    (h : (create user secret id now).Left past (.done (.ok given))) :
    ∃ s, Session.fresh? id user (Secret.hash secret) now = some s ∧
      past = [⟨.sessions (.replace s), some (.ok ())⟩] := by
  unfold create at h
  cases hfresh : Session.fresh? id user (Secret.hash secret) now with
  | none =>
    rw [hfresh] at h
    cases h
  | some s =>
    rw [hfresh] at h
    refine ⟨s, rfl, ?_⟩
    obtain ⟨e | ⟨⟩, later, rfl, hrest⟩ := Program.Left.replied h
    · cases hrest
    · rw [hrest.done.1]

/-- The steps of a rotation that is answered, and that has not found its user. -/
theorem stepsOf_rotation {secret next : String} {id : SessionId} {now : Instant}
    {past : List (Program.Asked BackendCall BackendCall.Reply)}
    {answer : Except RefreshError (String × Principal)} {user : UserId}
    {found : Except StoreError (Option Principal)}
    (h : (rotate secret next id now).Left past (.done answer))
    (hlookup : ⟨.directory (.findById user), some found⟩ ∈ past)
    (hnone : ∀ p, found ≠ .ok (some p)) :
    ∃ consumed deleted, consumed.user = user ∧
      past = [⟨.sessions (.rotate (Secret.hash secret) (Secret.hash next) id now),
          some (.ok (some consumed))⟩,
        ⟨.directory (.findById user), some found⟩,
        ⟨.sessions (.deleteForUser user), some deleted⟩] := by
  unfold rotate at h
  obtain ⟨e | _ | consumed, later, rfl, hrest⟩ := Program.Left.replied h
  · rw [hrest.done.1] at hlookup
    cases List.mem_singleton.mp hlookup
  · rw [hrest.done.1] at hlookup
    cases List.mem_singleton.mp hlookup
  · change Program.Left (ite _ _ _) later _ at hrest
    split at hrest
    · rw [hrest.done.1] at hlookup
      cases List.mem_singleton.mp hlookup
    · obtain ⟨loaded, later, rfl, hloaded⟩ := Program.Left.replied hrest
      rcases loaded with e | _ | p
      · obtain ⟨deleted, later, rfl, hdeleted⟩ := Program.Left.replied hloaded
        obtain rfl : later = [] := by cases deleted <;> exact hdeleted.done.1
        obtain ⟨rfl, rfl⟩ : user = consumed.user ∧ found = .error e := by simpa using hlookup
        exact ⟨consumed, deleted, rfl, rfl⟩
      · obtain ⟨deleted, later, rfl, hdeleted⟩ := Program.Left.replied hloaded
        obtain rfl : later = [] := by cases deleted <;> exact hdeleted.done.1
        obtain ⟨rfl, rfl⟩ : user = consumed.user ∧ found = .ok none := by simpa using hlookup
        exact ⟨consumed, deleted, rfl, rfl⟩
      · obtain rfl : later = [] := hloaded.done.1
        obtain ⟨rfl, rfl⟩ : user = consumed.user ∧ found = .ok (some p) := by simpa using hlookup
        exact absurd rfl (hnone p)

/-! ## Rotations that have lost their user -/

/-- The user whom a step has looked for in vain: the directory failed, or it has nobody. -/
def Event.missed? : Event → Option UserId
  | ⟨_, .directory (.findById user), some (.error _)⟩ => some user
  | ⟨_, .directory (.findById user), some (.ok none)⟩ => some user
  | _ => none

/-- The secret of a rotation that has ended with an error, and the one that was generated for it. -/
def Task.refused? : Task → Option (String × String)
  | ⟨.rotate secret next _ _, .done (.error _)⟩ => some (secret, next)
  | _ => none

/-- The session of a login that is answered with its secret. -/
def Task.begun? : Task → Option Session
  | ⟨.create user secret id now, .done (.ok _)⟩ => Session.fresh? id user (Secret.hash secret) now
  | _ => none

theorem eq_of_missed? {user : UserId} (h : e.missed? = some user) :
    ∃ found, e = ⟨e.task, .directory (.findById user), some found⟩ ∧ ∀ p, found ≠ .ok (some p) := by
  unfold Event.missed? at h
  split at h
  · cases h
    exact ⟨_, rfl, fun _ => nofun⟩
  · cases h
    exact ⟨_, rfl, fun _ => nofun⟩
  · cases h

theorem eq_of_refused? {t : Task} {secret next : String} (h : t.refused? = some (secret, next)) :
    ∃ id now failure, t = ⟨.rotate secret next id now, .done (.error failure)⟩ := by
  unfold Task.refused? at h
  split at h
  · cases h
    exact ⟨_, _, _, rfl⟩
  · cases h

/-- A rotation that lost its user, from the step that took out what its secret had, over a window
in which it looks for the user, to the step that clears what the user has. -/
structure ClearsUp (requests : List Request) (events : List Event) (σ : Scene) (i : Nat)
    (secret next : String) (user : UserId) (before window after : List Event)
    (consume clear : Event) : Prop where
  steps : events = before ++ consume :: (window ++ clear :: after)
  own : consume.task = i ∧ clear.task = i
  consumes : consume.Consumes (Secret.hash secret)
  clears : clear.call = .sessions (.deleteForUser user)
  /-- What is cleared is the new session of the rotation itself, or was filed within the window. -/
  takesOut : ∃ σ₁ σ₂, Run requests (before ++ consume :: window) σ₁ ∧ Step σ₁ clear σ₂ ∧
    Follows σ₂ after σ ∧ ∀ s ∈ σ₁.sessions.table.values, s ∉ σ₂.sessions.table.values →
      s.user = user ∧ (s.tokenHash = Secret.hash next ∨ ∃ e ∈ window, e.Files s)
  /-- A login that began its session after the rotation took out what its secret had is undone by
  nobody but other tasks, or else it is one of the same user and came before the clearing. -/
  spares : ∀ j s, σ.tasks[j]?.bind Task.begun? = some s →
    ∃ earlier filed later, events = earlier ++ filed :: later ∧ filed.task = j ∧ filed.Files s ∧
      (consume ∈ earlier → s ∈ σ.sessions.table.values ∨ (∃ e ∈ later, e.task ≠ i ∧ e.Ends s) ∨
        (s.user = user ∧ clear ∈ later))

/-- A login that is answered with its secret has filed its session, and it stays until a step
puts an end to it. -/
theorem filed_of_begun (h : Run requests events σ) {j : Nat}
    (hbegun : σ.tasks[j]?.bind Task.begun? = some s) :
    ∃ earlier filed later, events = earlier ++ filed :: later ∧ filed.task = j ∧ filed.Files s ∧
      (s ∈ σ.sessions.table.values ∨ ∃ e ∈ later, e.Ends s) := by
  obtain ⟨t, ht, hbegun⟩ := Option.bind_eq_some_iff.mp hbegun
  have hleft := left_of_task h ht
  unfold Task.begun? at hbegun
  split at hbegun
  · obtain ⟨s', hfresh, hown⟩ := stepsOf_login hleft
    cases hfresh.symm.trans hbegun
    have hfilter := filter_task_eq j events
    rw [hown] at hfilter
    obtain ⟨earlier, later, rfl, -, -, -⟩ := List.filter_eq_cons_iff.mp hfilter
    obtain ⟨σ₁, σ₂, hrun, hstep, hfollows⟩ := exists_step_of_mid h
    have hfiled := wellFiled_run hrun
    exact ⟨earlier, _, later, rfl, rfl, rfl,
      kept_follows hfollows (wellFiled_step hstep hfiled) (filed_step hstep hfiled rfl)⟩
  · cases hbegun

/-- A task that takes three steps takes no first step after the first. -/
theorem eq_of_later {i : Nat} {first second third : Event} {earlier later : List Event}
    (hown : (earlier ++ later).filter (·.task = i) = [first, second, third])
    (hfirst : first ∈ earlier) (he : e ∈ later) (htask : e.task = i) : e = second ∨ e = third := by
  have hi : first.task = i := by
    have hmem : first ∈ (earlier ++ later).filter (·.task = i) := by
      rw [hown]
      exact List.mem_cons_self
    simpa using List.of_mem_filter hmem
  rw [List.filter_append] at hown
  cases hbefore : earlier.filter (·.task = i) with
  | nil => exact absurd (decide_eq_true hi) (List.filter_eq_nil_iff.mp hbefore first hfirst)
  | cons x xs =>
    rw [hbefore, List.cons_append, List.cons.injEq] at hown
    have hmem : e ∈ xs ++ later.filter (·.task = i) :=
      List.mem_append_right _ (List.mem_filter.mpr ⟨he, decide_eq_true htask⟩)
    rw [hown.2] at hmem
    simpa using hmem

/-- The three steps of a rotation that has lost its user. -/
theorem own_steps_of_refused {i : Nat} {secret next : String} {user : UserId}
    (h : Run requests events σ) (hrefused : σ.tasks[i]?.bind Task.refused? = some (secret, next))
    (hmissed : ∃ e ∈ events, e.task = i ∧ e.missed? = some user) :
    ∃ id now consumed found deleted, consumed.user = user ∧
      events.filter (·.task = i) =
        [⟨i, .sessions (.rotate (Secret.hash secret) (Secret.hash next) id now),
            some (.ok (some consumed))⟩,
          ⟨i, .directory (.findById user), some found⟩,
          ⟨i, .sessions (.deleteForUser user), some deleted⟩] := by
  obtain ⟨t, ht, hrefused⟩ := Option.bind_eq_some_iff.mp hrefused
  obtain ⟨id, now, failure, rfl⟩ := eq_of_refused? hrefused
  obtain ⟨e, he, htask, hmissed⟩ := hmissed
  obtain ⟨found, heq, hnone⟩ := eq_of_missed? hmissed
  have hlookup : ⟨.directory (.findById user), some found⟩ ∈ stepsOf i events := by
    refine List.mem_map.mpr ⟨e, List.mem_filter.mpr ⟨he, decide_eq_true htask⟩, ?_⟩
    rw [heq]
  obtain ⟨consumed, deleted, huser, hown⟩ := stepsOf_rotation (left_of_task h ht) hlookup hnone
  refine ⟨id, now, consumed, found, deleted, huser, ?_⟩
  rw [filter_task_eq, hown]
  rfl

/-- A rotation that has lost its user and ends with an error clears nothing of anybody else, and
nothing of its own user but its own new session and what was filed between its two steps. -/
theorem a_rotation_without_its_user_clears_up_after_itself {i : Nat} {secret next : String}
    {user : UserId} (h : Run requests events σ)
    (hrefused : σ.tasks[i]?.bind Task.refused? = some (secret, next))
    (hmissed : ∃ e ∈ events, e.task = i ∧ e.missed? = some user) :
    ∃ before window after consume clear,
      ClearsUp requests events σ i secret next user before window after consume clear := by
  obtain ⟨id, now, consumed, found, deleted, rfl, hown⟩ := own_steps_of_refused h hrefused hmissed
  obtain ⟨before, rest, hevents, -, -, hrest⟩ := List.filter_eq_cons_iff.mp hown
  obtain ⟨window₁, rest, rfl, -, -, hrest⟩ := List.filter_eq_cons_iff.mp hrest
  obtain ⟨window₂, after, rfl, -, -, -⟩ := List.filter_eq_cons_iff.mp hrest
  rw [← @List.cons_append _ _ window₂, ← List.append_assoc window₁] at hevents
  refine ⟨before, window₁ ++ _ :: window₂, after, _, _, hevents, ⟨rfl, rfl⟩, rfl, rfl, ?_, ?_⟩
  · rw [hevents, ← List.cons_append, ← List.append_assoc] at h
    obtain ⟨σ₁, σ₂, hrun, hclear, hfollows⟩ := exists_step_of_mid h
    refine ⟨σ₁, σ₂, hrun, hclear, hfollows, fun s hs hgone => ?_⟩
    have huser := user_of_cleared (wellFiled_run hrun) hclear hs hgone
    obtain ⟨τ₁, τ₂, hrun₁, hexchange, hwindow⟩ := exists_step_of_mid hrun
    have hfiled := wellFiled_run hrun₁
    refine ⟨huser, ?_⟩
    rcases origin_follows hwindow (wellFiled_step hexchange hfiled) hs with hs | hfiles
    · exact .inl (hash_of_exchanged hfiled hexchange hs huser)
    · exact .inr hfiles
  · intro j s hbegun
    obtain ⟨earlier, filed, later, hsteps, hj, hfiles, hkept⟩ := filed_of_begun h hbegun
    refine ⟨earlier, filed, later, hsteps, hj, hfiles, fun hconsume => ?_⟩
    rcases hkept with hs | ⟨e, he, hends⟩
    · exact .inl hs
    · by_cases htask : e.task = i
      · rw [hsteps] at hown
        rcases eq_of_later hown hconsume (List.mem_cons_of_mem _ he) htask with rfl | rfl
        · exact hends.elim
        · obtain ⟨-, huser | hhash | ⟨now, hnow, -⟩⟩ := hends
          · exact .inr (.inr ⟨huser.symm, he⟩)
          · cases hhash
          · cases hnow
      · exact .inr (.inl ⟨e, he, htask, hends⟩)

/-- A rotation whose directory is down, and a login of the same user while it goes on. -/
def overtaken : List Request :=
  [.create ⟨.ofNat 1⟩ "a" ⟨.ofNat 1⟩ ⟨3000, by decide, by decide⟩,
   .rotate "a" "b" ⟨.ofNat 2⟩ ⟨3001, by decide, by decide⟩,
   .create ⟨.ofNat 1⟩ "c" ⟨.ofNat 3⟩ ⟨3002, by decide, by decide⟩]

def directoryDown : (c : DirectoryCall) → c.Reply
  | .findById _ => .error (.unavailable "down")
  | c => (Directory.empty.answer c).1

/-- The login comes after the clearing, and it comes before. -/
def lateLogin : List Event × Scene :=
  play overtaken ([0, 1, 1, 1, 2].map fun i => (i, directoryDown))

def earlyLogin : List Event × Scene :=
  play overtaken ([0, 1, 2, 1, 1].map fun i => (i, directoryDown))

theorem a_late_login_lasts :
    lateLogin.2.sessions.table.values.map (·.id) = [⟨.ofNat 3⟩] ∧
      ∃ before window after consume clear,
        ClearsUp overtaken lateLogin.1 lateLogin.2 1 "a" "b" ⟨.ofNat 1⟩ before window after consume
          clear := by
  have hrun : Run overtaken lateLogin.1 lateLogin.2 := run_play overtaken _
  have hrefused : lateLogin.2.tasks[1]?.bind Task.refused? = some ("a", "b") := by decide +kernel
  have hmissed : ∃ e ∈ lateLogin.1, e.task = 1 ∧ e.missed? = some ⟨.ofNat 1⟩ := by decide +kernel
  refine ⟨by decide +kernel, ?_⟩
  exact a_rotation_without_its_user_clears_up_after_itself hrun hrefused hmissed

/-- A login that comes before the clearing is answered with its secret and undone, though nobody
but the rotation takes another step. -/
theorem an_early_login_is_undone :
    Run overtaken earlyLogin.1 earlyLogin.2 ∧ earlyLogin.1.map (·.task) = [0, 1, 2, 1, 1] ∧
      (∃ e ∈ earlyLogin.1, e.task = 1 ∧ e.missed? = some ⟨.ofNat 1⟩) ∧
      earlyLogin.2.tasks[1]?.bind Task.refused? = some ("a", "b") ∧
      (earlyLogin.2.tasks[2]?.bind Task.begun?).map (·.tokenHash) = some (Secret.hash "c") ∧
      earlyLogin.2.sessions.table.values = [] := by
  refine ⟨run_play overtaken _, ?_, ?_, ?_, ?_, ?_⟩
  all_goals decide +kernel

end Refresh

end TenantAuth
