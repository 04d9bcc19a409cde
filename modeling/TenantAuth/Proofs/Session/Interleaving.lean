-- Many clients at once. Every call to the store and to the directory is one atomic
-- step, the steps of different clients come in any order, and the directory may
-- reply anything. Still a secret is exchanged at most once.

import Mathlib.Data.List.Induction
import Mathlib.Data.List.Pairwise
import TenantAuth.Proofs.Program
import TenantAuth.Proofs.Session.Owner
import TenantAuth.Proofs.Session.Request

namespace TenantAuth.Refresh

/-! ## Interleavings -/

/-- A request under way, with what is left to do for it. -/
structure Task where
  request : Request
  rest : BackendProgram request.Answer

structure Scene where
  sessions : SessionMemory
  tasks : List Task

/-- One atomic step: which task made which call, and what the reply was. -/
structure Event where
  task : Nat
  call : BackendCall
  reply : Option call.Reply

/-- A call can be answered with a reply, and leaves these sessions. The directory
gives any reply at all, and does not touch the sessions. -/
def Answers (m : SessionMemory) : (c : BackendCall) → Option c.Reply → SessionMemory → Prop
  | .sessions c, reply, m' => m.answer c = (reply, m')
  | .directory _, reply, m' => reply.isSome ∧ m' = m

inductive Step : Scene → Event → Scene → Prop
  | call {m m' : SessionMemory} {tasks : List Task} {i : Nat} {request : Request} {c : BackendCall}
      {next : c.Reply → BackendProgram request.Answer} {reply : Option c.Reply} :
      tasks[i]? = some ⟨request, .call c next⟩ → Answers m c reply m' →
      Step ⟨m, tasks⟩ ⟨i, c, reply⟩ ⟨m', tasks.set i ⟨request, Program.resume next reply⟩⟩

/-- No session, and nothing done yet for any request. -/
def Scene.start (requests : List Request) : Scene :=
  ⟨.empty, requests.map fun r => ⟨r, r.program⟩⟩

/-- The steps of one interleaving, oldest first, and the scene they lead to. -/
inductive Run (requests : List Request) : List Event → Scene → Prop
  | nil : Run requests [] (.start requests)
  | snoc {events : List Event} {σ σ' : Scene} {e : Event} :
      Run requests events σ → Step σ e σ' → Run requests (events ++ [e]) σ'

/-- The next step of a task, with the replies that the directory gives. A task that is
answered, or that there is not, makes none. -/
def Scene.advance? (σ : Scene) (i : Nat) (d : (c : DirectoryCall) → c.Reply) :
    Option (Event × Scene) :=
  match σ.tasks[i]? with
  | some ⟨request, .call (.sessions c) next⟩ =>
    let (reply, m) := σ.sessions.answer c
    some (⟨i, .sessions c, reply⟩, ⟨m, σ.tasks.set i ⟨request, Program.resume next reply⟩⟩)
  | some ⟨request, .call (.directory c) next⟩ =>
    some (⟨i, .directory c, some (d c)⟩,
      ⟨σ.sessions, σ.tasks.set i ⟨request, Program.resume next (some (d c))⟩⟩)
  | _ => none

/-- One turn of a schedule, after the events before it. -/
def turn (played : List Event × Scene) (next : Nat × ((c : DirectoryCall) → c.Reply)) :
    List Event × Scene :=
  match played.2.advance? next.1 next.2 with
  | some (e, σ) => (played.1 ++ [e], σ)
  | none => played

/-- The interleaving that a schedule of tasks leads to. -/
def play (requests : List Request) (schedule : List (Nat × ((c : DirectoryCall) → c.Reply))) :
    List Event × Scene :=
  schedule.foldl turn ([], .start requests)

theorem step_of_advance? {σ σ' : Scene} {i : Nat} {d : (c : DirectoryCall) → c.Reply} {e : Event}
    (h : σ.advance? i d = some (e, σ')) : Step σ e σ' := by
  unfold Scene.advance? at h
  split at h
  · cases h
    exact .call ‹_› rfl
  · cases h
    exact .call ‹_› ⟨rfl, rfl⟩
  · cases h

/-- Every schedule leads to an interleaving. -/
theorem run_play (requests : List Request)
    (schedule : List (Nat × ((c : DirectoryCall) → c.Reply))) :
    Run requests (play requests schedule).1 (play requests schedule).2 := by
  induction schedule using List.reverseRecOn with
  | nil => exact .nil
  | append_singleton schedule next ih =>
    unfold play at ih ⊢
    rw [List.foldl_append, List.foldl_cons, List.foldl_nil, turn]
    split
    · exact .snoc ih (step_of_advance? ‹_›)
    · exact ih

/-! ## What a step does to the sessions -/

namespace Event

/-- The step took out the session filed under a hash, to exchange it. -/
def Consumes (hash : String) : Event → Prop
  | ⟨_, .sessions (.rotate h _ _ _), some (.ok (some _))⟩ => h = hash
  | _ => False

/-- The step filed a session under a hash. -/
def Inserts (hash : String) : Event → Prop
  | ⟨_, .sessions (.replace s), some (.ok _)⟩ => s.tokenHash = hash
  | ⟨_, .sessions (.rotate _ h _ _), some (.ok (some _))⟩ => h = hash
  | _ => False

/-- The step looked for the session filed under a hash, to validate or to exchange. -/
def LooksUp (hash : String) : Event → Prop
  | ⟨_, .sessions (.rotate h _ _ _), _⟩ => h = hash
  | ⟨_, .sessions (.findByHash h _), _⟩ => h = hash
  | _ => False

/-- The step found the session that it looked for. -/
def Finds : Event → Prop
  | ⟨_, .sessions (.rotate ..), some (.ok (some _))⟩ => True
  | ⟨_, .sessions (.findByHash ..), some (.ok (some _))⟩ => True
  | _ => False

end Event

theorem Event.Consumes.finds {e : Event} {hash : String} (h : e.Consumes hash) : e.Finds := by
  unfold Event.Consumes at h
  split at h
  · trivial
  · exact h.elim

theorem Event.Consumes.looksUp {e : Event} {hash : String} (h : e.Consumes hash) :
    e.LooksUp hash := by
  unfold Event.Consumes at h
  split at h
  · exact h
  · exact h.elim

/-- No user has two sessions. -/
def OnePerUser (t : SessionTable) : Prop := (t.values.map (·.user)).Nodup

theorem onePerUser_keep {t : SessionTable} (p : String → Session → Bool) (h : OnePerUser t) :
    OnePerUser (t.keep p) := by
  refine h.sublist ?_
  exact (List.filter_sublist.map _).map _

/-- Filing a session takes out the others of its user first. -/
theorem onePerUser_file {t : SessionTable} (s : Session) (h : OnePerUser t) :
    OnePerUser (t.file s) := by
  have hrest : OnePerUser ((t.withoutUser s.user).erase s.tokenHash) :=
    onePerUser_keep _ (onePerUser_keep _ h)
  refine List.nodup_cons.mpr ⟨fun hmem => ?_, hrest⟩
  obtain ⟨s', hs', heq⟩ := List.mem_map.mp hmem
  obtain ⟨e, he, rfl⟩ := List.mem_map.mp hs'
  have := (Keyed.mem_entries_keep.mp (Keyed.mem_entries_erase.mp he).1).2
  simp only [ne_eq, decide_not, Bool.not_eq_eq_eq_not, Bool.not_true, decide_eq_false_iff_not] at this
  exact this heq

theorem isSome_of_find?_keep {t : SessionTable} {p : String → Session → Bool} {hash : String}
    (h : ((t.keep p).find? hash).isSome) : (t.find? hash).isSome := by
  rw [Keyed.find?_keep] at h
  cases hf : t.find? hash with
  | none => simp [hf] at h
  | some s => rfl

theorem isSome_find?_file {t : SessionTable} {s : Session} {hash : String}
    (h : ((t.file s).find? hash).isSome) : s.tokenHash = hash ∨ (t.find? hash).isSome := by
  unfold SessionTable.file at h
  rw [Keyed.find?_put] at h
  split at h
  · exact Or.inl (Eq.symm ‹_›)
  · exact Or.inr (isSome_of_find?_keep h)

theorem isSome_find?_erase {t : SessionTable} {taken hash : String}
    (h : (Keyed.find? (t.erase taken) hash).isSome) : taken ≠ hash ∧ (t.find? hash).isSome := by
  rw [Keyed.find?_erase] at h
  split at h
  · cases h
  · exact ⟨fun heq => absurd heq.symm ‹_›, h⟩

/-- All that a step can do to the sessions: no user gets a second one, what is filed
afterwards was filed before or put in by the step, what was consumed is gone, and
what was found was there. -/
structure Change (m : SessionMemory) (e : Event) (m' : SessionMemory) : Prop where
  onePerUser : OnePerUser m.table → OnePerUser m'.table
  kept : ∀ hash, (m'.table.find? hash).isSome →
    e.Inserts hash ∨ ((m.table.find? hash).isSome ∧ ¬ e.Consumes hash)
  found : ∀ hash, e.LooksUp hash → e.Finds → (m.table.find? hash).isSome

/-- A step that takes sessions out, and neither looks one up nor exchanges it. -/
theorem change_keep {t : SessionTable} {e : Event} {locked locked' : Bool}
    (p : String → Session → Bool) (hconsumes : ∀ k, ¬ e.Consumes k)
    (hlooksUp : ∀ k, ¬ e.LooksUp k) : Change ⟨t, locked⟩ e ⟨t.keep p, locked'⟩ where
  onePerUser := onePerUser_keep p
  kept := fun k hk => Or.inr ⟨isSome_of_find?_keep hk, hconsumes k⟩
  found := fun k hk => absurd hk (hlooksUp k)

theorem change_rotate {t t' : SessionTable} {hash newHash : String} {newId : SessionId}
    {now : Instant} {i : Nat} {locked locked' : Bool} {reply : Option (Option Session)}
    (h : t.answer (.rotate hash newHash newId now) = (reply, t')) :
    Change ⟨t, locked⟩ ⟨i, .sessions (.rotate hash newHash newId now), reply.map .ok⟩
      ⟨t', locked'⟩ := by
  unfold SessionTable.answer at h
  cases hf : (t.live now).find? hash with
  | none =>
    simp only [hf, Prod.mk.injEq] at h
    obtain ⟨rfl, rfl⟩ := h
    exact ⟨onePerUser_keep _, fun k hk => Or.inr ⟨isSome_of_find?_keep hk, id⟩, fun _ _ h => h.elim⟩
  | some consumed =>
    have hthere : (t.find? hash).isSome := by
      refine isSome_of_find?_keep (p := fun _ s => !s.isExpiredAt now) ?_
      exact Option.isSome_of_eq_some hf
    have hfound : ∀ k, hash = k → (t.find? k).isSome := fun k hk => hk ▸ hthere
    simp only [hf, SessionTable.not_expired_of_find?_live hf, Bool.false_eq_true, if_false] at h
    cases hs : Session.fresh? newId consumed.user newHash now with
    | none =>
      simp only [hs, Prod.mk.injEq] at h
      obtain ⟨rfl, rfl⟩ := h
      refine ⟨fun h1 => onePerUser_keep _ (onePerUser_keep _ (onePerUser_keep _ h1)), ?_,
        fun _ _ h => h.elim⟩
      intro k hk
      have hk' := isSome_find?_erase (isSome_of_find?_keep hk)
      exact Or.inr ⟨isSome_of_find?_keep hk'.2, id⟩
    | some next =>
      simp only [hs, Prod.mk.injEq] at h
      obtain ⟨rfl, rfl⟩ := h
      obtain ⟨_, hnext, _⟩ := Session.fields_of_fresh? hs
      refine ⟨fun h1 => onePerUser_file _ (onePerUser_keep _ (onePerUser_keep _ h1)), ?_,
        fun k hk _ => hfound k hk⟩
      intro k hk
      rcases isSome_find?_file hk with hnew | hold
      · exact Or.inl (hnext.symm.trans hnew)
      · obtain ⟨hne, hlive⟩ := isSome_find?_erase hold
        exact Or.inr ⟨isSome_of_find?_keep hlive, hne⟩

/-- A store in memory refuses and stays as it is, or its table gives the answer. -/
theorem answer_cases {m m' : SessionMemory} {c : SessionCall} {reply : Option c.Reply}
    (h : m.answer c = (reply, m')) :
    (reply = some (.error SessionMemory.lockedError) ∧ m' = m) ∨
      ∃ r t' locked', m.table.answer c = (r, t') ∧ reply = r.map .ok ∧ m' = ⟨t', locked'⟩ := by
  unfold SessionMemory.answer at h
  by_cases hl : m.locked = true ∧ c ≠ .ping
  · rw [if_pos hl] at h
    cases h
    exact Or.inl ⟨rfl, rfl⟩
  · rw [if_neg hl] at h
    right
    rcases hr : m.table.answer c with ⟨r, t'⟩
    rw [hr] at h
    cases r <;> cases h <;> exact ⟨_, _, _, rfl, rfl, rfl⟩

theorem change_of_answers {m m' : SessionMemory} {i : Nat} {c : BackendCall}
    {reply : Option c.Reply} (h : Answers m c reply m') : Change m ⟨i, c, reply⟩ m' := by
  cases c with
  | directory c =>
    obtain ⟨_, rfl⟩ := h
    exact ⟨id, fun _ hk => Or.inr ⟨hk, id⟩, fun _ h => h.elim⟩
  | sessions c =>
    rcases answer_cases h with ⟨rfl, rfl⟩ | ⟨r, t', locked', hr, rfl, rfl⟩
    · refine ⟨id, fun _ hk => Or.inr ⟨hk, ?_⟩, fun _ _ hf => ?_⟩
      · cases c <;> exact fun h => h
      · cases c <;> exact hf.elim
    · cases c with
      | rotate hash newHash newId now => exact change_rotate hr
      | replace s =>
        cases hr
        refine ⟨fun h1 => onePerUser_file _ (onePerUser_keep _ h1), fun k hk => ?_,
          fun _ h => h.elim⟩
        rcases isSome_find?_file hk with hnew | hold
        · exact Or.inl hnew
        · exact Or.inr ⟨isSome_of_find?_keep hold, id⟩
      | findByHash hash now =>
        cases hr
        refine ⟨onePerUser_keep _, fun k hk => Or.inr ⟨isSome_of_find?_keep hk, id⟩, ?_⟩
        rintro k rfl hfinds
        cases hf : (m.table.live now).find? hash with
        | none => rw [hf] at hfinds; exact hfinds.elim
        | some s =>
          refine isSome_of_find?_keep (p := fun _ s => !s.isExpiredAt now) ?_
          exact Option.isSome_of_eq_some hf
      | deleteByHash hash =>
        cases hr
        exact change_keep _ (fun _ => id) fun _ => id
      | deleteForUser user =>
        cases hr
        exact change_keep _ (fun _ => id) fun _ => id
      | sweepExpired now =>
        cases hr
        exact change_keep _ (fun _ => id) fun _ => id
      | ping =>
        cases hr
        exact ⟨id, fun _ hk => Or.inr ⟨hk, id⟩, fun _ h => h.elim⟩

/-! ## What a request does with its steps -/

/-- The calls that file a session, or look for one by its hash. A request makes such a
call at most once, and before all others. -/
def IsEntry : BackendCall → Prop
  | .sessions (.replace _) | .sessions (.findByHash ..) | .sessions (.rotate ..) => True
  | _ => False

/-- The answer accepts the secret that the request presents. -/
def Request.Accepts : (r : Request) → r.Answer → Prop
  | .validate .., answer => ∃ p, answer = .ok p
  | .rotate .., answer => ∃ v, answer = .ok v
  | .create .., _ | .revoke _, _ | .revokeSecret _, _ | .sweep _, _ => False

theorem isEntry_of_inserts {e : Event} {hash : String} (h : e.Inserts hash) : IsEntry e.call := by
  unfold Event.Inserts at h
  split at h <;> trivial

theorem isEntry_of_looksUp {e : Event} {hash : String} (h : e.LooksUp hash) : IsEntry e.call := by
  unfold Event.LooksUp at h
  split at h <;> trivial

theorem avoids_loadUser (u : UserId) : (loadUser u).Avoids IsEntry := by
  refine ⟨fun h => h, fun r => ?_⟩
  rcases r with e | _ | p <;> trivial

/-- All that matters about the first step of a request: it files nothing but the
secret generated for the request, the entry calls are over then, and a look-up that
finds nothing decides the answer. -/
structure Opening (r : Request) (e : Event) (rest : BackendProgram r.Answer) : Prop where
  inserts : ∀ hash, e.Inserts hash → ∃ s, r.generated? = some s ∧ Secret.hash s = hash
  entered : rest.Avoids IsEntry
  missed : ¬ e.Finds → rest.Never r.Accepts
  consumed : ∀ secret next id now, r = .rotate secret next id now → e.Finds →
    e.Consumes (Secret.hash secret)

/-- After the only call of a request whose answer accepts no secret. -/
theorem opening_of_single {r : Request} {c : BackendCall} {next : c.Reply → BackendProgram r.Answer}
    {i : Nat} {reply : Option c.Reply}
    (hinserts : ∀ hash, Event.Inserts hash ⟨i, c, reply⟩ →
      ∃ s, r.generated? = some s ∧ Secret.hash s = hash)
    (hdone : ∀ reply, ∃ answer, next reply = .done answer ∧ ¬ r.Accepts answer)
    (hrotate : ∀ secret next id now, r ≠ .rotate secret next id now) :
    Opening r ⟨i, c, reply⟩ (Program.resume next reply) where
  inserts := hinserts
  entered :=
    Program.avoids_resume (fun r => by obtain ⟨a, ha, _⟩ := hdone r; rw [ha]; trivial) reply
  missed := fun _ =>
    Program.never_resume (fun r => by obtain ⟨a, ha, hna⟩ := hdone r; rw [ha]; exact hna) reply
  consumed := fun secret next id now hr => absurd hr (hrotate secret next id now)

theorem opening_of_program {r : Request} {c : BackendCall} {next : c.Reply → BackendProgram r.Answer}
    (h : r.program = .call c next) (i : Nat) (reply : Option c.Reply) :
    Opening r ⟨i, c, reply⟩ (Program.resume next reply) := by
  cases r with
  | create user secret id now =>
    simp only [Request.program, create] at h
    cases hs : Session.fresh? id user (Secret.hash secret) now with
    | none =>
      rw [hs] at h
      cases h
    | some s =>
      rw [hs] at h
      cases h
      obtain ⟨_, hhash, _⟩ := Session.fields_of_fresh? hs
      refine opening_of_single (fun hash hins => ⟨secret, rfl, ?_⟩) (fun reply => ?_)
        (fun _ _ _ _ hr => by cases hr)
      · rcases reply with _ | e | _
        · exact hins.elim
        · exact hins.elim
        · exact hhash.symm.trans hins
      · cases reply <;> exact ⟨_, rfl, fun h => h⟩
  | validate secret now =>
    cases h
    refine ⟨fun _ hins => hins.elim, Program.avoids_resume (fun r => ?_) reply, fun hf => ?_,
      fun _ _ _ _ hr => by cases hr⟩
    · rcases r with e | _ | s
      · trivial
      · trivial
      · show Program.Avoids IsEntry (ite _ _ _)
        split
        · refine ⟨fun h => h, fun r => ?_⟩
          cases r <;> trivial
        · exact avoids_loadUser s.user
    · rcases reply with _ | e | _ | s
      · trivial
      · rintro ⟨p, hp⟩
        cases hp
      · rintro ⟨p, hp⟩
        cases hp
      · exact absurd trivial hf
  | rotate secret next id now =>
    cases h
    refine ⟨fun hash hins => ⟨next, rfl, ?_⟩, Program.avoids_resume (fun r => ?_) reply, fun hf => ?_,
      fun _ _ _ _ hr hf => ?_⟩
    · rcases reply with _ | e | _ | s
      · exact hins.elim
      · exact hins.elim
      · exact hins.elim
      · exact hins
    · rcases r with e | _ | s
      · trivial
      · trivial
      · show Program.Avoids IsEntry (ite _ _ _)
        split
        · trivial
        · refine Program.avoids_andThen (avoids_loadUser s.user) fun loaded => ?_
          rcases loaded with e | p
          · refine ⟨fun h => h, fun r => ?_⟩
            cases r <;> trivial
          · trivial
    · rcases reply with _ | e | _ | s
      · trivial
      · rintro ⟨p, hp⟩
        cases hp
      · rintro ⟨p, hp⟩
        cases hp
      · exact absurd trivial hf
    · cases hr
      rcases reply with _ | e | _ | s
      · exact hf.elim
      · exact hf.elim
      · exact hf.elim
      · rfl
  | revoke user =>
    cases h
    refine opening_of_single (fun _ hins => hins.elim) (fun reply => ?_)
      (fun _ _ _ _ hr => by cases hr)
    cases reply <;> exact ⟨_, rfl, id⟩
  | revokeSecret secret =>
    cases h
    refine opening_of_single (fun _ hins => hins.elim) (fun reply => ?_)
      (fun _ _ _ _ hr => by cases hr)
    cases reply <;> exact ⟨_, rfl, id⟩
  | sweep now =>
    cases h
    refine opening_of_single (fun _ hins => hins.elim) (fun reply => ?_)
      (fun _ _ _ _ hr => by cases hr)
    cases reply <;> exact ⟨_, rfl, id⟩

/-! ## The invariant of an interleaving -/

/-- Nothing has been done for the request yet. -/
def Waiting (events : List Event) (i : Nat) (t : Task) : Prop :=
  t.rest = t.request.program ∧ ∀ e ∈ events, e.task ≠ i

/-- The first step of the request is done. A rotation that can still succeed has
consumed its secret, and no request succeeds whose look-up found nothing. -/
structure Begun (events : List Event) (i : Nat) (t : Task) : Prop where
  entered : t.rest.Avoids IsEntry
  consumed : ∀ secret next id now, t.request = .rotate secret next id now →
    (∃ e ∈ events, e.task = i ∧ e.Consumes (Secret.hash secret)) ∨ t.rest.Never t.request.Accepts
  missed : ∀ e ∈ events, e.task = i → IsEntry e.call → ¬ e.Finds → t.rest.Never t.request.Accepts

/-- What every interleaving keeps: what is filed was put in once and never consumed,
and after a secret was consumed nobody finds it again. -/
structure Good (requests : List Request) (events : List Event) (σ : Scene) : Prop where
  onePerUser : OnePerUser σ.sessions.table
  asked : σ.tasks.map (·.request) = requests
  tasks : ∀ i t, σ.tasks[i]? = some t → Waiting events i t ∨ Begun events i t
  inserted : ∀ e ∈ events, ∀ hash, e.Inserts hash →
    ∃ r s, requests[e.task]? = some r ∧ r.generated? = some s ∧ Secret.hash s = hash
  filed : ∀ hash, (σ.sessions.table.find? hash).isSome →
    (∃ e ∈ events, e.Inserts hash) ∧ ∀ e ∈ events, ¬ e.Consumes hash
  consumed : ∀ e ∈ events, ∀ hash, e.Consumes hash → ∃ e' ∈ events, e'.Inserts hash
  once : events.Pairwise fun e e' => ∀ hash, e.Consumes hash → e'.LooksUp hash → ¬ e'.Finds

theorem good_start (requests : List Request) : Good requests [] (.start requests) where
  onePerUser := List.nodup_nil
  asked := by simp [Scene.start, Function.comp_def]
  tasks := by
    intro i t ht
    simp only [Scene.start, List.getElem?_map, Option.map_eq_some_iff] at ht
    obtain ⟨r, _, rfl⟩ := ht
    exact Or.inl ⟨rfl, by simp⟩
  inserted := by simp
  filed := fun _ h => by cases h
  consumed := by simp
  once := .nil

/-- Two requests with one generated secret are the same request. -/
theorem index_eq_of_generated {requests : List Request} (hd : Distinct requests) {i j : Nat}
    {r r' : Request} {s : String} (hi : requests[i]? = some r) (hj : requests[j]? = some r')
    (hs : r.generated? = some s) (hs' : r'.generated? = some s) : i = j := by
  have hp : requests.Pairwise fun a b => ∀ x, a.generated? = some x → ∀ y, b.generated? = some y →
      x ≠ y := List.pairwise_filterMap.mp hd
  rw [List.pairwise_iff_getElem] at hp
  obtain ⟨hil, rfl⟩ := List.getElem?_eq_some_iff.mp hi
  obtain ⟨hjl, rfl⟩ := List.getElem?_eq_some_iff.mp hj
  rcases Nat.lt_trichotomy i j with h | h | h
  · exact absurd rfl (hp i j hil hjl h s hs s hs')
  · exact h
  · exact absurd rfl (hp j i hjl hil h s hs' s hs)

theorem begun_mono {events : List Event} {i : Nat} {t : Task} {e : Event} (he : e.task ≠ i)
    (h : Begun events i t) : Begun (events ++ [e]) i t where
  entered := h.entered
  consumed := fun secret next id now hr => by
    rcases h.consumed secret next id now hr with ⟨e', he', hc⟩ | hn
    · exact Or.inl ⟨e', List.mem_append_left _ he', hc⟩
    · exact Or.inr hn
  missed := by
    rw [List.forall_mem_append, List.forall_mem_singleton]
    exact ⟨h.missed, fun hi => absurd hi he⟩

theorem begun_of_waiting {events : List Event} {i : Nat} {request : Request} {c : BackendCall}
    {next : c.Reply → BackendProgram request.Answer} {reply : Option c.Reply}
    (h : Waiting events i ⟨request, .call c next⟩) :
    Begun (events ++ [⟨i, c, reply⟩]) i ⟨request, Program.resume next reply⟩ := by
  have hopen := opening_of_program h.1.symm i reply
  refine ⟨hopen.entered, fun secret next id now hr => ?_, ?_⟩
  · by_cases hf : Event.Finds ⟨i, c, reply⟩
    · exact Or.inl ⟨_, by simp, rfl, hopen.consumed secret next id now hr hf⟩
    · exact Or.inr (hopen.missed hf)
  · rw [List.forall_mem_append, List.forall_mem_singleton]
    exact ⟨fun e' he' hi => absurd hi (h.2 e' he'), fun _ _ hf => hopen.missed hf⟩

theorem begun_step {events : List Event} {i : Nat} {request : Request} {c : BackendCall}
    {next : c.Reply → BackendProgram request.Answer} {reply : Option c.Reply}
    (h : Begun events i ⟨request, .call c next⟩) :
    Begun (events ++ [⟨i, c, reply⟩]) i ⟨request, Program.resume next reply⟩ where
  entered := Program.avoids_resume h.entered.2 reply
  consumed := fun secret next' id now hr => by
    rcases h.consumed secret next' id now hr with ⟨e', he', hc⟩ | hn
    · exact Or.inl ⟨e', List.mem_append_left _ he', hc⟩
    · exact Or.inr (Program.never_resume hn reply)
  missed := by
    rw [List.forall_mem_append, List.forall_mem_singleton]
    refine ⟨fun e' he' hi hentry hf => ?_, fun _ hentry => absurd hentry h.entered.1⟩
    exact Program.never_resume (h.missed e' he' hi hentry hf) reply

/-- A step that files a session files it under a hash that no step filed one under
before: the secret was generated for this request alone. -/
theorem not_inserts_of_inserts {requests : List Request} (hd : Distinct requests)
    (ha : Apart (requests.flatMap Request.secrets)) {events : List Event} {σ : Scene}
    (h : Good requests events σ) {i : Nat} {request : Request} {c : BackendCall}
    {next : c.Reply → BackendProgram request.Answer} {reply : Option c.Reply} {hash : String}
    (ht : σ.tasks[i]? = some ⟨request, .call c next⟩)
    (hins : Event.Inserts hash ⟨i, c, reply⟩) :
    requests[i]? = some request ∧ (∃ s, request.generated? = some s ∧ Secret.hash s = hash) ∧
      ∀ e ∈ events, ¬ e.Inserts hash := by
  have hrequest : requests[i]? = some request := by
    rw [← h.asked, List.getElem?_map, ht]
    rfl
  have hwait : Waiting events i ⟨request, .call c next⟩ := by
    rcases h.tasks i _ ht with hw | hb
    · exact hw
    · exact absurd (isEntry_of_inserts hins) hb.entered.1
  obtain ⟨s, hs, rfl⟩ := (opening_of_program hwait.1.symm i reply).inserts hash hins
  refine ⟨hrequest, ⟨s, hs, rfl⟩, fun e he hold => ?_⟩
  obtain ⟨r', s', hr', hs', heq⟩ := h.inserted e he _ hold
  have hmem : ∀ {r : Request} {x : String} {k : Nat}, requests[k]? = some r →
      r.generated? = some x → x ∈ requests.flatMap Request.secrets := by
    intro r x k hr hx
    refine List.mem_flatMap.mpr ⟨r, List.mem_of_getElem? hr, ?_⟩
    simp [Request.secrets, hx]
  obtain rfl := ha _ (hmem hr' hs') _ (hmem hrequest hs) heq
  exact hwait.2 e he (index_eq_of_generated hd hr' hrequest hs' hs)

theorem inserted_snoc {events : List Event} {e : Event} {hash : String}
    (h : ∃ e ∈ events, e.Inserts hash) : ∃ e' ∈ events ++ [e], e'.Inserts hash := by
  obtain ⟨e', he', hins⟩ := h
  exact ⟨e', List.mem_append_left _ he', hins⟩

theorem good_step {requests : List Request} (hd : Distinct requests)
    (ha : Apart (requests.flatMap Request.secrets)) {events : List Event} {σ σ' : Scene} {e : Event}
    (h : Good requests events σ) (hstep : Step σ e σ') : Good requests (events ++ [e]) σ' := by
  obtain @⟨m, m', tasks, i, request, c, next, reply, ht, hans⟩ := hstep
  have hchange := change_of_answers (i := i) hans
  have hnew := fun {hash : String} (hins : Event.Inserts hash ⟨i, c, reply⟩) =>
    not_inserts_of_inserts hd ha h ht hins
  -- What the step finds was filed, so it was put in once and never consumed.
  have hfound : ∀ hash, Event.LooksUp hash ⟨i, c, reply⟩ → Event.Finds ⟨i, c, reply⟩ →
      (∃ e ∈ events, e.Inserts hash) ∧ ∀ e ∈ events, ¬ e.Consumes hash :=
    fun hash hl hf => h.filed hash (hchange.found hash hl hf)
  refine ⟨hchange.onePerUser h.onePerUser, ?asked, ?tasks, ?inserted, ?filed, ?consumed, ?once⟩
  case asked =>
    rw [← h.asked, List.map_set]
    refine List.ext_getElem? fun j => ?_
    by_cases hij : i = j
    · obtain ⟨hlt, heq⟩ := List.getElem?_eq_some_iff.mp ht
      subst hij
      simp [hlt, heq]
    · rw [List.getElem?_set_ne hij]
  case tasks =>
    intro j t hj
    rw [List.getElem?_set] at hj
    by_cases hij : i = j
    · subst hij
      obtain ⟨hlt, _⟩ := List.getElem?_eq_some_iff.mp ht
      rw [if_pos rfl, if_pos hlt, Option.some.injEq] at hj
      subst hj
      rcases h.tasks i _ ht with hw | hb
      · exact Or.inr (begun_of_waiting hw)
      · exact Or.inr (begun_step hb)
    · rw [if_neg hij] at hj
      rcases h.tasks j t hj with hw | hb
      · refine Or.inl ⟨hw.1, ?_⟩
        rw [List.forall_mem_append, List.forall_mem_singleton]
        exact ⟨hw.2, hij⟩
      · exact Or.inr (begun_mono hij hb)
  case inserted =>
    rw [List.forall_mem_append, List.forall_mem_singleton]
    refine ⟨h.inserted, fun hash hins => ?_⟩
    obtain ⟨hr, ⟨s, hs, hh⟩, _⟩ := hnew hins
    exact ⟨request, s, hr, hs, hh⟩
  case filed =>
    intro hash hf
    rcases hchange.kept hash hf with hins | ⟨hold, hnc⟩
    · obtain ⟨_, _, hfirst⟩ := hnew hins
      refine ⟨⟨_, by simp, hins⟩, ?_⟩
      rw [List.forall_mem_append, List.forall_mem_singleton]
      refine ⟨fun e he hc => ?_, fun hc => ?_⟩
      · obtain ⟨e', he', hins'⟩ := h.consumed e he hash hc
        exact hfirst e' he' hins'
      · obtain ⟨⟨e', he', hins'⟩, _⟩ := hfound hash hc.looksUp hc.finds
        exact hfirst e' he' hins'
    · obtain ⟨hinserted, hnever⟩ := h.filed hash hold
      refine ⟨inserted_snoc hinserted, ?_⟩
      rw [List.forall_mem_append, List.forall_mem_singleton]
      exact ⟨hnever, hnc⟩
  case consumed =>
    rw [List.forall_mem_append, List.forall_mem_singleton]
    refine ⟨fun e he hash hc => ?_, fun hash hc => ?_⟩
    · exact inserted_snoc (h.consumed e he hash hc)
    · exact inserted_snoc (hfound hash hc.looksUp hc.finds).1
  case once =>
    rw [List.pairwise_append]
    refine ⟨h.once, List.pairwise_singleton _ _, fun e he e' he' hash hc hl hf => ?_⟩
    obtain rfl := List.mem_singleton.mp he'
    exact (hfound hash hl hf).2 e he hc

theorem good_run {requests : List Request} (hd : Distinct requests)
    (ha : Apart (requests.flatMap Request.secrets)) {events : List Event} {σ : Scene}
    (h : Run requests events σ) : Good requests events σ := by
  induction h with
  | nil => exact good_start requests
  | snoc _ hstep ih => exact good_step hd ha ih hstep

/-! ## The laws of an interleaving -/

/-- The request of a task is answered, and the secret that it presents accepted. -/
def Scene.Accepted (σ : Scene) (i : Nat) : Prop :=
  ∃ request answer, σ.tasks[i]? = some ⟨request, .done answer⟩ ∧ request.Accepts answer

/-- The task has exchanged the secret for a new one. -/
def Scene.Exchanged (σ : Scene) (secret : String) (i : Nat) : Prop :=
  ∃ next id now v, σ.tasks[i]? = some ⟨.rotate secret next id now, .done (.ok v)⟩

theorem consumed_of_exchanged {requests : List Request} {events : List Event} {σ : Scene}
    (h : Good requests events σ) {secret : String} {i : Nat} (hi : σ.Exchanged secret i) :
    ∃ e ∈ events, e.task = i ∧ e.Consumes (Secret.hash secret) := by
  obtain ⟨next, id, now, v, ht⟩ := hi
  rcases h.tasks i _ ht with hw | hb
  · cases hw.1
  · rcases hb.consumed secret next id now rfl with he | hn
    · exact he
    · exact absurd ⟨v, rfl⟩ hn

/-- In every interleaving a secret is exchanged by one task at most; once a step has
consumed it, no task is accepted that looks it up afterwards; and no user ever has
two sessions. -/
theorem a_secret_is_exchanged_at_most_once {requests : List Request} (hd : Distinct requests)
    (ha : Apart (requests.flatMap Request.secrets)) {events : List Event} {σ : Scene}
    (h : Run requests events σ) :
    (∀ secret i j, σ.Exchanged secret i → σ.Exchanged secret j → i = j) ∧
    (∀ secret before e after, events = before ++ e :: after → e.Consumes (Secret.hash secret) →
      ∀ e' ∈ after, e'.LooksUp (Secret.hash secret) → ¬ σ.Accepted e'.task) ∧
    OnePerUser σ.sessions.table := by
  have hgood := good_run hd ha h
  refine ⟨?_, ?_, hgood.onePerUser⟩
  · intro secret i j hi hj
    obtain ⟨e, he, rfl, hc⟩ := consumed_of_exchanged hgood hi
    obtain ⟨e', he', rfl, hc'⟩ := consumed_of_exchanged hgood hj
    by_contra hne
    have hpair : events.Pairwise fun e e' => ∀ hash, e.Consumes hash → ¬ e'.Consumes hash :=
      hgood.once.imp fun h hash hc hc' => h hash hc hc'.looksUp hc'.finds
    have : Std.Symm fun e e' : Event => ∀ hash, e.Consumes hash → ¬ e'.Consumes hash :=
      ⟨fun _ _ h hash hc hc' => h hash hc' hc⟩
    exact hpair.forall he he' (fun heq => hne (heq ▸ rfl)) _ hc hc'
  · rintro secret before e after rfl hc e' he' hl ⟨request, answer, ht, hacc⟩
    have hmissed : ¬ e'.Finds :=
      (List.pairwise_cons.mp (List.pairwise_append.mp hgood.once).2.1).1 e' he' _ hc hl
    have hmem : e' ∈ before ++ e :: after := by simp [he']
    rcases hgood.tasks _ _ ht with hw | hb
    · exact hw.2 e' hmem rfl
    · exact hb.missed e' hmem rfl (isEntry_of_looksUp hl) hmissed hacc

/-- Two rotations of one secret, and a look-up of it. -/
def rivals : List Request :=
  [.create ⟨.ofNat 1⟩ "a" ⟨.ofNat 1⟩ ⟨1000, by decide, by decide⟩,
   .rotate "a" "b" ⟨.ofNat 2⟩ ⟨1001, by decide, by decide⟩,
   .rotate "a" "c" ⟨.ofNat 3⟩ ⟨1001, by decide, by decide⟩,
   .validate "a" ⟨1002, by decide, by decide⟩]

/-- The second rotation comes in between two steps of the first, and the look-up
before the last. -/
def rivalsPlayed : List Event × Scene :=
  play rivals ([0, 1, 2, 1, 3, 1].map fun i => (i, fun c => (Directory.empty.answer c).1))

theorem rivals_exchange_at_most_once :
    Distinct rivals ∧ Apart (rivals.flatMap Request.secrets) ∧
      Run rivals rivalsPlayed.1 rivalsPlayed.2 ∧ rivalsPlayed.1.map (·.task) = [0, 1, 2, 1, 3, 1] ∧
      (∀ i j, rivalsPlayed.2.Exchanged "a" i → rivalsPlayed.2.Exchanged "a" j → i = j) ∧
      OnePerUser rivalsPlayed.2.sessions.table := by
  have hd : Distinct rivals := by unfold Distinct; decide
  have ha : Apart (rivals.flatMap Request.secrets) := by unfold Apart; decide +kernel
  have hrun : Run rivals rivalsPlayed.1 rivalsPlayed.2 := run_play rivals _
  have hlaw := a_secret_is_exchanged_at_most_once hd ha hrun
  exact ⟨hd, ha, hrun, by decide +kernel, hlaw.1 "a", hlaw.2.2⟩

end TenantAuth.Refresh
