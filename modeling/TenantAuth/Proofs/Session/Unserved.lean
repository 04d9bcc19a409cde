-- An exchange that has used up a secret and cannot be finished, since the directory does not give
-- the user. Nothing is given out then, and no session of the user is left that anybody can use.

import TenantAuth.Proofs.Session.Expiry
import TenantAuth.Proofs.Session.Interleaving
import TenantAuth.Proofs.Session.Sparing

namespace TenantAuth.Refresh

open BackendProgram

/-! ## Stores that may fail -/

/-- How a store of sessions may answer a call. It does what its table does, or it refuses and
does nothing, or it does it and fails to say so. -/
inductive Served (t : SessionTable) (c : SessionCall) : Option c.Reply → SessionTable → Prop
  | answered {a : c.Answer} {t' : SessionTable} (h : t.answer c = (some a, t')) :
      Served t c (some (.ok a)) t'
  | refused (e : StoreError) : Served t c (some (.error e)) t
  | unheard (e : StoreError) : Served t c (some (.error e)) (t.answer c).2
  | broken {t' : SessionTable} (h : t.answer c = (none, t')) : Served t c none t'

theorem served_table (t : SessionTable) (c : SessionCall) :
    Served t c ((t.answer c).1.map .ok) (t.answer c).2 := by
  rcases h : t.answer c with ⟨_ | a, t'⟩
  · exact .broken h
  · exact .answered h

/-- Such a store beside any directory, by the sessions that a state holds. -/
structure Keeps {σ : Type} (answer : (c : BackendCall) → σ → Option c.Reply × σ)
    (view : σ → SessionTable) : Prop where
  sessions : ∀ c s, Served (view s) c (answer (.sessions c) s).1 (view (answer (.sessions c) s).2)
  directory : ∀ c s, view (answer (.directory c) s).2 = view s

/-- The store in memory is one of these, also when it is locked. -/
theorem keeps_inMemory : Keeps Memory.answer fun m => m.sessions.table where
  sessions c m := by
    change Served m.sessions.table c (m.sessions.answer c).1 (m.sessions.answer c).2.table
    unfold SessionMemory.answer
    by_cases hlocked : m.sessions.locked = true ∧ c ≠ .ping
    · rw [if_pos hlocked]
      exact .refused _
    · rw [if_neg hlocked]
      rcases h : m.sessions.table.answer c with ⟨_ | a, t'⟩
      · exact .broken h
      · exact .answered h
  directory _ _ := rfl

/-! ## Hashes that find nothing -/

section

variable {t t' : SessionTable} {hash : String}

theorem find?_keep_of_absent (p : String → Session → Bool) (h : t.find? hash = none) :
    (t.keep p).find? hash = none := by
  rw [Keyed.find?_keep, h, Option.filter_none]

theorem find?_file_of_absent {s : Session} (h : t.find? hash = none) (hs : s.tokenHash ≠ hash) :
    (t.file s).find? hash = none := by
  rw [SessionTable.file, Keyed.find?_put, if_neg hs.symm]
  exact find?_keep_of_absent _ h

theorem find?_answer_of_absent {c : SessionCall} (h : t.find? hash = none)
    (hc : c.newHash? ≠ some hash) : (t.answer c).2.find? hash = none := by
  cases c with
  | replace s =>
    exact find?_file_of_absent (find?_keep_of_absent _ h) fun heq => hc (congrArg some heq)
  | rotate taken newHash newId now =>
    have hrest : Keyed.find? ((t.live now).erase taken) hash = none :=
      find?_keep_of_absent _ (find?_keep_of_absent _ h)
    cases hfind : (t.live now).find? taken with
    | none =>
      rw [SessionTable.answer_rotate_of_absent hfind]
      exact find?_keep_of_absent _ h
    | some consumed =>
      cases hfresh : Session.fresh? newId consumed.user newHash now with
      | none =>
        rw [SessionTable.answer_rotate_of_late hfind hfresh]
        exact find?_keep_of_absent _ hrest
      | some next =>
        rw [SessionTable.answer_rotate_of_found hfind hfresh]
        refine find?_file_of_absent hrest fun heq => hc (congrArg some ?_)
        rw [← heq, (Session.fields_of_fresh? hfresh).2.1]
  | findByHash taken now => exact find?_keep_of_absent _ h
  | deleteByHash taken => exact find?_keep_of_absent _ h
  | deleteForUser user => exact find?_keep_of_absent _ h
  | sweepExpired now => exact find?_keep_of_absent _ h
  | ping => exact h

/-- A hash that finds nothing goes on to find nothing until something is filed under it. -/
theorem Served.absent {c : SessionCall} {reply : Option c.Reply} (hserved : Served t c reply t')
    (h : t.find? hash = none) (hc : c.newHash? ≠ some hash) : t'.find? hash = none := by
  have hafter := find?_answer_of_absent h hc
  cases hserved with
  | answered ha => rwa [ha] at hafter
  | refused e => exact h
  | unheard e => exact hafter
  | broken ha => rwa [ha] at hafter

/-- What is said to be found is there. -/
theorem Served.found {now : Instant} {session : Session}
    (hserved : Served t (.findByHash hash now) (some (.ok (some session))) t') :
    t.find? hash ≠ none := by
  intro h
  cases hserved with
  | answered ha =>
    have hnone : (t.live now).find? hash = none := by
      rw [SessionTable.find?_live, h, Option.filter_none]
    rw [SessionTable.answer, hnone] at ha
    cases ha

/-- What is said to be taken out was there and not over, and another session is filed. -/
theorem Served.exchanged {newHash : String} {newId : SessionId} {now : Instant}
    {consumed : Session}
    (hserved : Served t (.rotate hash newHash newId now) (some (.ok (some consumed))) t') :
    (t.live now).find? hash = some consumed ∧
      ∃ next, Session.fresh? newId consumed.user newHash now = some next ∧
        t' = SessionTable.file ((t.live now).erase hash) next := by
  cases hserved with
  | answered ha =>
    cases hfind : (t.live now).find? hash with
    | none =>
      rw [SessionTable.answer_rotate_of_absent hfind] at ha
      cases ha
    | some found =>
      cases hfresh : Session.fresh? newId found.user newHash now with
      | none =>
        rw [SessionTable.answer_rotate_of_late hfind hfresh] at ha
        cases ha
      | some next =>
        rw [SessionTable.answer_rotate_of_found hfind hfresh] at ha
        cases ha
        exact ⟨rfl, next, hfresh, rfl⟩

theorem Served.taken {newHash : String} {newId : SessionId} {now : Instant} {consumed : Session}
    (hserved : Served t (.rotate hash newHash newId now) (some (.ok (some consumed))) t') :
    t.find? hash ≠ none := by
  intro h
  have hfind := hserved.exchanged.1
  rw [SessionTable.find?_live, h] at hfind
  cases hfind

/-- The sessions of a user are gone, or the store has refused to delete them. -/
theorem Served.deleted {user : UserId} {reply : Option (SessionCall.deleteForUser user).Reply}
    (hserved : Served t (.deleteForUser user) reply t') :
    ∃ deleted, reply = some deleted ∧
      (t' = t.withoutUser user ∨ ((∃ e, deleted = .error e) ∧ t' = t)) := by
  cases hserved with
  | answered ha =>
    cases ha
    exact ⟨_, rfl, Or.inl rfl⟩
  | refused e => exact ⟨_, rfl, Or.inr ⟨⟨e, rfl⟩, rfl⟩⟩
  | unheard e => exact ⟨_, rfl, Or.inl rfl⟩
  | broken ha => cases ha

theorem user_ne_of_withoutUser {user : UserId} {session : Session}
    (h : (t.withoutUser user).find? hash = some session) : session.user ≠ user := by
  rw [SessionTable.find?_withoutUser, Option.filter_eq_some_iff] at h
  simpa using h.2

/-- A user whose session has just been filed has no other. -/
theorem hash_of_filed {next session : Session} (h : (t.file next).find? hash = some session)
    (huser : session.user = next.user) : hash = next.tokenHash := by
  rw [SessionTable.file, Keyed.find?_put] at h
  by_contra hne
  rw [if_neg hne] at h
  exact user_ne_of_withoutUser h huser

end

/-- The call files a session under the hash. -/
def FilesUnder (hash : String) : BackendCall → Prop
  | .sessions c => c.newHash? = some hash
  | .directory _ => False

/-- The states that follow one while nothing is filed under the hash. -/
inductive Meanwhile {σ : Type} (answer : (c : BackendCall) → σ → Option c.Reply × σ)
    (hash : String) (s : σ) : σ → Prop
  | now : Meanwhile answer hash s s
  | call {s' : σ} (c : BackendCall) (before : Meanwhile answer hash s s')
      (hc : ¬ FilesUnder hash c) : Meanwhile answer hash s (answer c s').2

/-- The secret is turned down, from now on and until it is generated again. -/
def Spent {σ : Type} (answer : (c : BackendCall) → σ → Option c.Reply × σ) (s : σ)
    (secret : String) : Prop :=
  ∀ s', Meanwhile answer (Secret.hash secret) s s' → ∀ now,
    (∀ p, ((validate secret now).run answer s').1 ≠ some (.ok p)) ∧
    ∀ next id given, ((rotate secret next id now).run answer s').1 ≠ some (.ok given)

section

variable {σ : Type} {answer : (c : BackendCall) → σ → Option c.Reply × σ} {view : σ → SessionTable}
  {s s' : σ} {hash secret : String}

theorem Keeps.absent_step (hkeeps : Keeps answer view) (h : (view s).find? hash = none)
    {c : BackendCall} (hc : ¬ FilesUnder hash c) : (view (answer c s).2).find? hash = none := by
  cases c with
  | sessions c => exact (hkeeps.sessions c s).absent h hc
  | directory c => rwa [hkeeps.directory]

theorem Keeps.absent_run (hkeeps : Keeps answer view) (h : (view s).find? hash = none)
    (hlater : Meanwhile answer hash s s') : (view s').find? hash = none := by
  induction hlater with
  | now => exact h
  | call c before hc ih => exact hkeeps.absent_step ih hc

theorem Keeps.spent (hkeeps : Keeps answer view)
    (h : (view s).find? (Secret.hash secret) = none) : Spent answer s secret := by
  intro s' hlater now
  have habsent := hkeeps.absent_run h hlater
  constructor
  · intro p hp
    obtain ⟨session, s'', hreply⟩ := found_of_validated hp
    have hserved := hkeeps.sessions (.findByHash (Secret.hash secret) now) s'
    rw [hreply] at hserved
    exact hserved.found habsent
  · intro next id given hgiven
    obtain ⟨consumed, s'', hreply⟩ := found_of_rotated hgiven
    have hserved := hkeeps.sessions (.rotate (Secret.hash secret) (Secret.hash next) id now) s'
    rw [hreply] at hserved
    exact hserved.taken habsent

end

/-! ## Exchanges that cannot be finished -/

/-- Why the directory does not give a user. -/
def loadFailure : Except StoreError (Option Principal) → RefreshError
  | .error e => .store e
  | .ok _ => .unknownUser

/-- The error that such an exchange ends with. -/
def refusal (found : Except StoreError (Option Principal)) :
    Except StoreError Bool → RefreshError
  | .ok _ => loadFailure found
  | .error e => .store e

/-- What comes of an exchange that has taken out `consumed`, when the directory says `found` and
the store says `deleted`. -/
structure FailsClosed {σ : Type} (answer : (c : BackendCall) → σ → Option c.Reply × σ)
    (view : σ → SessionTable) (s : σ) (secret next : String) (id : SessionId) (now : Instant)
    (consumed : Session) (found : Except StoreError (Option Principal))
    (deleted : Except StoreError Bool) : Prop where
  /-- The store is asked to delete the sessions of the user, and nothing is asked after it. -/
  asked : (rotate secret next id now).asked answer s =
    [⟨.sessions (.rotate (Secret.hash secret) (Secret.hash next) id now),
        some (.ok (some consumed))⟩,
      ⟨.directory (.findById consumed.user), some found⟩,
      ⟨.sessions (.deleteForUser consumed.user), some deleted⟩]
  refused : ((rotate secret next id now).run answer s).1 = some (.error (refusal found deleted))
  gone : (∃ b, deleted = .ok b) → ∀ hash session,
    (view ((rotate secret next id now).run answer s).2).find? hash = some session →
    session.user ≠ consumed.user
  /-- What cannot be deleted is filed under the secret that is not given out. -/
  left : ∀ hash session,
    (view ((rotate secret next id now).run answer s).2).find? hash = some session →
    session.user = consumed.user → hash = Secret.hash next
  spent : Secret.hash next ≠ Secret.hash secret →
    Spent answer ((rotate secret next id now).run answer s).2 secret

section

variable {σ : Type} {answer : (c : BackendCall) → σ → Option c.Reply × σ} {view : σ → SessionTable}
  {s s₁ s₂ : σ}

theorem loaded_refused {found : Except StoreError (Option Principal)}
    (hnone : ∀ p, found ≠ .ok (some p)) : loaded found = .error (loadFailure found) := by
  rcases found with e | _ | p
  · rfl
  · rfl
  · exact absurd rfl (hnone p)

/-- The three calls of an exchange that cannot be finished. -/
theorem rotate_unserved {secret next : String} {id : SessionId} {now : Instant}
    {consumed : Session} {found : Except StoreError (Option Principal)}
    {deleted : Except StoreError Bool} {s₃ : σ}
    (hrotated : answer (.sessions (.rotate (Secret.hash secret) (Secret.hash next) id now)) s =
      (some (.ok (some consumed)), s₁))
    (hlive : consumed.isExpiredAt now = false)
    (hfound : answer (.directory (.findById consumed.user)) s₁ = (some found, s₂))
    (hnone : ∀ p, found ≠ .ok (some p))
    (hdeleted : answer (.sessions (.deleteForUser consumed.user)) s₂ = (some deleted, s₃)) :
    (rotate secret next id now).run answer s = (some (.error (refusal found deleted)), s₃) ∧
    (rotate secret next id now).asked answer s =
      [⟨.sessions (.rotate (Secret.hash secret) (Secret.hash next) id now),
          some (.ok (some consumed))⟩,
        ⟨.directory (.findById consumed.user), some found⟩,
        ⟨.sessions (.deleteForUser consumed.user), some deleted⟩] := by
  rw [rotate, run_session_some hrotated, asked_session_some hrotated]
  dsimp only
  rw [hlive, if_neg Bool.false_ne_true, run_loadUser_some hfound, asked_loadUser_some hfound,
    loaded_refused hnone]
  dsimp only
  rw [run_session_some hdeleted, asked_session_some hdeleted]
  cases deleted <;> exact ⟨rfl, rfl⟩

theorem failsClosed {secret next : String} {id : SessionId} {now : Instant} {consumed : Session}
    {found : Except StoreError (Option Principal)} (hkeeps : Keeps answer view)
    (hrotated : answer (.sessions (.rotate (Secret.hash secret) (Secret.hash next) id now)) s =
      (some (.ok (some consumed)), s₁))
    (hfound : answer (.directory (.findById consumed.user)) s₁ = (some found, s₂))
    (hnone : ∀ p, found ≠ .ok (some p)) :
    ∃ deleted, FailsClosed answer view s secret next id now consumed found deleted := by
  -- what the three calls leave of the table
  have hserved := hkeeps.sessions (.rotate (Secret.hash secret) (Secret.hash next) id now) s
  rw [hrotated] at hserved
  obtain ⟨hfind, filed, hfresh, htable⟩ := hserved.exchanged
  obtain ⟨huser, hhash, -⟩ := Session.fields_of_fresh? hfresh
  have hsame := hkeeps.directory (.findById consumed.user) s₁
  rw [hfound] at hsame
  have hdelete := hkeeps.sessions (.deleteForUser consumed.user) s₂
  rcases hs₃ : answer (.sessions (.deleteForUser consumed.user)) s₂ with ⟨reply, s₃⟩
  rw [hs₃] at hdelete
  obtain ⟨deleted, rfl, hview⟩ := hdelete.deleted
  obtain ⟨hrun, hasked⟩ := rotate_unserved hrotated (SessionTable.not_expired_of_find?_live hfind)
    hfound hnone hs₃
  have habsent (hapart : Secret.hash next ≠ Secret.hash secret) :
      (view s₂).find? (Secret.hash secret) = none := by
    rw [hsame, htable]
    refine find?_file_of_absent ?_ (hhash ▸ hapart)
    rw [Keyed.find?_erase, if_pos rfl]
  refine ⟨deleted, hasked, by rw [hrun], ?_, ?_, ?_⟩
  · rintro ⟨b, rfl⟩ hash session hsession
    rw [hrun] at hsession
    rcases hview with hview | ⟨⟨e, heq⟩, -⟩
    · rw [hview] at hsession
      exact user_ne_of_withoutUser hsession
    · cases heq
  · intro hash session hsession hu
    rw [hrun] at hsession
    rcases hview with hview | ⟨-, hview⟩
    · rw [hview] at hsession
      exact absurd hu (user_ne_of_withoutUser hsession)
    · rw [hview, hsame, htable] at hsession
      rw [hash_of_filed hsession (hu.trans huser.symm), hhash]
  · intro hapart
    rw [hrun]
    refine hkeeps.spent ?_
    rcases hview with hview | ⟨-, hview⟩
    · rw [hview]
      exact find?_keep_of_absent _ (habsent hapart)
    · rw [hview]
      exact habsent hapart

end

/-! ## Who is given a secret -/

/-- The secret that an answer gives out. -/
def Request.given? : (r : Request) → r.Answer → Option String
  | .create .., .ok secret => some secret
  | .rotate .., .ok (next, _) => some next
  | _, _ => none

/-- On no way through a request is a secret given out but the one that is generated for it. -/
theorem never_given {r : Request} {x : String} (h : r.generated? ≠ some x) :
    r.program.Never fun a => r.given? a = some x := by
  cases r with
  | create user secret id now =>
    change (create user secret id now).Never _
    unfold create
    cases Session.fresh? id user (Secret.hash secret) now with
    | none => trivial
    | some session =>
      intro reply
      rcases reply with e | u
      · exact fun heq => by cases heq
      · exact h
  | rotate secret next id now =>
    intro reply
    rcases reply with e | _ | consumed
    · exact fun heq => by cases heq
    · exact fun heq => by cases heq
    · change Program.Never _ (if consumed.isExpiredAt now then _ else _)
      by_cases hover : consumed.isExpiredAt now
      · rw [if_pos hover]
        exact fun heq => by cases heq
      · rw [if_neg hover]
        intro found
        rcases found with e | _ | p
        · intro deleted
          cases deleted <;> exact fun heq => by cases heq
        · intro deleted
          cases deleted <;> exact fun heq => by cases heq
        · exact h
  | validate secret now => exact Program.never_of_forall (fun _ heq => by cases heq) _
  | revoke user => exact Program.never_of_forall (fun _ heq => by cases heq) _
  | revokeSecret secret => exact Program.never_of_forall (fun _ heq => by cases heq) _
  | sweep now => exact Program.never_of_forall (fun _ heq => by cases heq) _

/-- An exchange whose user cannot be had fails, gives nothing out and leaves no session that
anybody can use, whatever the directory says and whether or not the store deletes the sessions.
One that finds nothing to exchange asks for nothing more. -/
theorem an_unserved_exchange_fails_closed {σ : Type}
    (answer : (c : BackendCall) → σ → Option c.Reply × σ) (view : σ → SessionTable)
    (hkeeps : Keeps answer view) (s : σ) (secret next : String) (id : SessionId) (now : Instant) :
    (∀ consumed found s₁ s₂,
      answer (.sessions (.rotate (Secret.hash secret) (Secret.hash next) id now)) s =
        (some (.ok (some consumed)), s₁) →
      answer (.directory (.findById consumed.user)) s₁ = (some found, s₂) →
      (∀ p, found ≠ .ok (some p)) →
      ∃ deleted, FailsClosed answer view s secret next id now consumed found deleted) ∧
    (∀ (requests : List Request) (i : Nat), Distinct requests →
      requests[i]? = some (.rotate secret next id now) →
      ∀ (j : Nat) (r : Request), requests[j]? = some r → j ≠ i →
        r.program.Never fun a => r.given? a = some next) ∧
    ∀ reply s', answer (.sessions (.rotate (Secret.hash secret) (Secret.hash next) id now)) s =
        (reply, s') → (∀ consumed, reply ≠ some (.ok (some consumed))) →
      (rotate secret next id now).asked answer s =
        [⟨.sessions (.rotate (Secret.hash secret) (Secret.hash next) id now), reply⟩] ∧
      ((rotate secret next id now).run answer s).1 = reply.map fun
        | .error e => .error (.store e)
        | .ok _ => .error .notFound := by
  refine ⟨fun consumed found s₁ s₂ => failsClosed hkeeps, ?_, ?_⟩
  · intro requests i hd hi j r hj hij
    exact never_given fun hr => hij (index_eq_of_generated hd hj hi hr rfl)
  · intro reply s' hreply hmissed
    rcases reply with _ | e | _ | consumed
    · rw [rotate, run_session_none hreply, asked_session_none hreply]
      exact ⟨rfl, rfl⟩
    · rw [rotate, run_session_some hreply, asked_session_some hreply]
      exact ⟨rfl, rfl⟩
    · rw [rotate, run_session_some hreply, asked_session_some hreply]
      exact ⟨rfl, rfl⟩
    · exact absurd rfl (hmissed consumed)

/-- A table beside a directory that knows nobody, in a store that cannot delete for a user. -/
def brittleStore : (c : BackendCall) → SessionTable → Option c.Reply × SessionTable
  | .sessions (.deleteForUser _), t => (some (.error (.unavailable "disk full")), t)
  | .sessions c, t => ((t.answer c).1.map .ok, (t.answer c).2)
  | .directory (.findById _), t => (some (.ok none), t)
  | .directory _, t => (none, t)

theorem keeps_brittleStore : Keeps brittleStore id where
  sessions c t := by
    cases c <;> first | exact .refused _ | exact served_table t _
  directory c t := by cases c <;> rfl

/-- A session of somebody whom no directory knows. -/
def strayFiling : Session := ⟨⟨.ofNat 1⟩, ⟨.ofNat 2⟩, Secret.hash "s", atExpiry, .epoch⟩

def strayTable : SessionTable := SessionTable.file .empty strayFiling

theorem strays_are_turned_away :
    (∃ deleted, FailsClosed brittleStore id strayTable "s" "t" ⟨.ofNat 3⟩ .epoch strayFiling
      (.ok none) deleted) ∧
    ∃ deleted, FailsClosed Memory.answer (fun m => m.sessions.table) ⟨⟨strayTable, false⟩, .empty⟩
      "s" "t" ⟨.ofNat 3⟩ .epoch strayFiling (.ok none) deleted := by
  have hfind : (strayTable.live .epoch).find? (Secret.hash "s") = some strayFiling := by
    have hfiled : strayTable.find? (Secret.hash "s") = some strayFiling :=
      (Keyed.find?_put ..).trans (if_pos rfl)
    rw [SessionTable.find?_live, hfiled]
    rfl
  obtain ⟨next, hfresh⟩ := Session.fresh?_of_add? ⟨.ofNat 3⟩ strayFiling.user (Secret.hash "t")
    (show (Instant.epoch.add? Session.lifetime).isSome from rfl)
  have hexchanged := SessionTable.answer_rotate_of_found hfind hfresh
  have hbrittle : brittleStore (.sessions (.rotate (Secret.hash "s") (Secret.hash "t") ⟨.ofNat 3⟩
      .epoch)) strayTable = (some (.ok (some strayFiling)),
        SessionTable.file ((strayTable.live .epoch).erase (Secret.hash "s")) next) := by
    rw [brittleStore, hexchanged, Option.map_some]
    exact nofun
  have hmemory : Memory.answer (.sessions (.rotate (Secret.hash "s") (Secret.hash "t") ⟨.ofNat 3⟩
      .epoch)) ⟨⟨strayTable, false⟩, .empty⟩ = (some (.ok (some strayFiling)),
        ⟨⟨SessionTable.file ((strayTable.live .epoch).erase (Secret.hash "s")) next, false⟩,
          .empty⟩) := by
    rw [Memory.answer, SessionMemory.answer_of_table hexchanged]
  have hnobody (p : Principal) : (.ok none : Except StoreError (Option Principal)) ≠ .ok (some p) :=
    nofun
  exact ⟨(an_unserved_exchange_fails_closed brittleStore id keeps_brittleStore strayTable "s" "t"
      ⟨.ofNat 3⟩ .epoch).1 _ _ _ _ hbrittle rfl hnobody,
    (an_unserved_exchange_fails_closed Memory.answer _ keeps_inMemory _ "s" "t" ⟨.ofNat 3⟩ .epoch).1
      _ _ _ _ hmemory rfl hnobody⟩

end TenantAuth.Refresh
