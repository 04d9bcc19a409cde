-- How a request comes to be answered with tokens. A callback or a refresh that is answered so has
-- filed a new session, has issued an access token for the same principal, and shows where that
-- principal comes from: the identity provider, or the session that was there before.

import TenantAuth.Proofs.Api.Callback
import TenantAuth.Proofs.Api.Drawing
import TenantAuth.Proofs.Directory
import TenantAuth.Proofs.Session.Outcome

namespace TenantAuth

namespace Directory

/-- The owner of a new organization is in the directory from then on. -/
theorem known_of_createOrganization {d : Directory} {name email ownerName : String}
    {new : NewOrganization} {p : Principal}
    (h : (d.createOrganization name email ownerName new).1.map Prod.snd = .ok p) :
    p.email = email ∧ (d.createOrganization name email ownerName new).2.users.find? p.id = some p := by
  rcases d.createOrganization_cases name email ownerName new with ⟨e, hcreate⟩ | ⟨-, hcreate⟩
  · rw [hcreate] at h
    cases h
  · rw [hcreate] at h ⊢
    cases h
    exact ⟨rfl, (Keyed.find?_put ..).trans (if_pos rfl)⟩

end Directory

namespace Api

open TenantAuth.Http

variable {s : Service} {supply : Supply} {w w' : World} {response : Response} {t : Instant}

/-! ## Running -/

@[simp] theorem World.calls_spent (w : World) (n : Nat) : (w.spent n).calls = w.calls + n := rfl

@[simp] theorem World.spent_spent (w : World) (m n : Nat) : (w.spent m).spent n = w.spent (m + n) := by
  simp [World.spent, Nat.add_assoc]

section

variable {α β : Type}

theorem run_ask_andThen {c : Call BackendCall} {reply : c.Reply BackendCall.Reply}
    (h : World.answer supply c w = (some reply, w')) (f : c.Reply BackendCall.Reply → Handler α) :
    ((Handler.ask c).andThen f).run (World.answer supply) w =
      (f reply).run (World.answer supply) w' :=
  Program.run_call_some h

theorem World.answer_clock (supply : Supply) (w : World) :
    World.answer supply .clock w = (some (supply.clock w.calls), w.spent 1) := rfl

theorem World.answer_newSecret (supply : Supply) (w : World) :
    World.answer supply .newSecret w = (some (supply.secret w.calls), w.spent 1) := rfl

theorem World.answer_newSessionId (supply : Supply) (w : World) :
    World.answer supply .newSessionId w = (some (supply.sessionId w.calls), w.spent 1) := rfl

/-- A computation over the stores runs as it does on the memory, some calls later. -/
theorem run_stores (supply : Supply) (p : BackendProgram α) (w : World) :
    ∃ n, w.calls ≤ n ∧ (Handler.stores p).run (World.answer supply) w =
      ((p.run Memory.answer w.memory).1,
        { w with memory := (p.run Memory.answer w.memory).2, calls := n }) := by
  induction p generalizing w with
  | done a => exact ⟨w.calls, Nat.le_refl _, rfl⟩
  | broken => exact ⟨w.calls, Nat.le_refl _, rfl⟩
  | call b next ih =>
    rcases hreply : Memory.answer b w.memory with ⟨_ | reply, m⟩
    · have hanswer : World.answer supply (.backend b) w =
          (none, { w with memory := m, calls := w.calls + 1 }) := by
        simp only [World.answer, hreply]
      refine ⟨w.calls + 1, Nat.le_succ _, ?_⟩
      rw [Program.run_call_none hreply]
      exact Program.run_call_none hanswer
    · have hanswer : World.answer supply (.backend b) w =
          (some reply, { w with memory := m, calls := w.calls + 1 }) := by
        simp only [World.answer, hreply]
      obtain ⟨n, hn, hrun⟩ := ih reply { w with memory := m, calls := w.calls + 1 }
      refine ⟨n, (Nat.le_succ _).trans hn, ?_⟩
      rw [Program.run_call_some hreply]
      exact (run_ask_andThen hanswer _).trans hrun

/-- What goes on behind a computation over the stores, if that ends at all. -/
theorem of_run_stores {p : BackendProgram α} {f : α → Handler β} {b : β}
    (h : ((Handler.stores p).andThen f).run (World.answer supply) w = (some b, w')) :
    ∃ a m n, p.run Memory.answer w.memory = (some a, m) ∧ w.calls ≤ n ∧
      (f a).run (World.answer supply) { w with memory := m, calls := n } = (some b, w') := by
  obtain ⟨n, hn, hrun⟩ := run_stores supply p w
  rw [Program.run_andThen, hrun] at h
  rcases hp : p.run Memory.answer w.memory with ⟨_ | a, m⟩
  · rw [hp] at h
    cases h
  · rw [hp] at h
    exact ⟨a, m, n, rfl, hn, h⟩

end

/-! ## Failures -/

theorem le_status_ofError (e : AuthError) : 400 ≤ (Answer.ofError e).status := by
  cases e <;> simp [Answer.ofError, Answer.unauthorized, Answer.forbidden, Answer.problem,
    Response.json]

theorem status_ne_of_fail {e : AuthError}
    (h : (Handler.fail e).run (World.answer supply) w = (some response, w')) :
    response.status ≠ 200 := by
  have hresponse : response = Answer.ofError e := by cases e <;> cases h <;> rfl
  have hle := le_status_ofError e
  rw [hresponse]
  omega

/-- Behind a failure there is no answer with the status of success. -/
theorem of_run_orFail {ε α : Type} {toAuthError : ε → AuthError} {reply : Except ε α}
    {next : α → Handler Response}
    (h : (Handler.orFail toAuthError reply next).run (World.answer supply) w = (some response, w'))
    (h200 : response.status = 200) :
    ∃ a, reply = .ok a ∧ (next a).run (World.answer supply) w = (some response, w') := by
  cases reply with
  | error e => exact absurd h200 (status_ne_of_fail h)
  | ok a => exact ⟨a, rfl, h⟩

/-! ## Tokens -/

/-- Tokens have been given out to a principal: the directory knows the principal, the access token
was issued at that time, and under the secret, which is not older than the `start`-th call, there is
a session for seven days. -/
structure Granted (s : Service) (supply : Supply) (start : Nat) (w' : World) (t : Instant)
    (p : Principal) (access refresh : String) : Prop where
  known : w'.memory.directory.users.find? p.id = some p
  issued : s.signer.issue? p t = some (.ok access)
  drew : supply.Drew start w'.calls (Secret.hash refresh)
  unlocked : w'.memory.sessions.locked = false
  filed : ∃ session, w'.memory.sessions.table.find? (Secret.hash refresh) = some session ∧
    session.user = p.id ∧ session.expiresAt.nanos = t.nanos + Session.lifetime

theorem of_run_withAccessToken {p : Principal} {next : String → Handler Response}
    (h : (s.withAccessToken p next).run (World.answer supply) w = (some response, w'))
    (h200 : response.status = 200) :
    ∃ access, s.signer.issue? p (supply.clock w.calls) = some (.ok access) ∧
      (next access).run (World.answer supply) (w.spent 1) = (some response, w') := by
  unfold Service.withAccessToken at h
  rw [Program.bind_eq, run_ask_andThen (World.answer_clock supply w)] at h
  cases hissue : s.signer.issue? p (supply.clock w.calls) with
  | none =>
    rw [hissue] at h
    cases h
  | some token =>
    rw [hissue] at h
    obtain ⟨access, rfl, hrun⟩ := of_run_orFail h h200
    exact ⟨access, rfl, hrun⟩

theorem granted_of_beginSession {p : Principal}
    (hknown : w.memory.directory.users.find? p.id = some p)
    (h : (s.beginSession p).run (World.answer supply) w = (some response, w'))
    (h200 : response.status = 200)
    (hclock : ∀ n, w.calls ≤ n → n < w'.calls → supply.clock n = t) :
    ∃ access refresh, response = .json 200 (Service.tokensJson access refresh) ∧
      Granted s supply w.calls w' t p access refresh := by
  obtain ⟨access, hissue, hrun⟩ := of_run_withAccessToken h h200
  simp only [Program.bind_eq] at hrun
  rw [run_ask_andThen (World.answer_clock supply _), run_ask_andThen (World.answer_newSecret supply _),
    run_ask_andThen (World.answer_newSessionId supply _)] at hrun
  obtain ⟨created, m, n, hcreate, hn, hrun⟩ := of_run_stores hrun
  change w.calls + 4 ≤ n at hn
  cases created with
  | error e =>
    dsimp only at hrun
    rw [run_ask_andThen rfl] at hrun
    exact absurd h200 (status_ne_of_fail hrun)
  | ok refresh =>
    cases hrun
    rw [hclock _ (Nat.le_refl _) (show w.calls < n by omega)] at hissue
    obtain ⟨rfl, hopened⟩ := Refresh.opened_of_create hcreate
    have hnow : supply.clock (w.spent 1).calls = t :=
      hclock _ (Nat.le_succ _) (show w.calls + 1 < n by omega)
    rw [hnow] at hopened
    refine ⟨access, _, rfl, ?_, hissue, ?_, hopened.unlocked, hopened.filed⟩
    · rw [hopened.directory]
      exact hknown
    · exact ⟨w.calls + 2, by omega, show w.calls + 2 < n by omega, rfl⟩

theorem Granted.weaken {start start' : Nat} {p : Principal} {access refresh : String}
    (h : Granted s supply start w' t p access refresh) (hle : start' ≤ start) :
    Granted s supply start' w' t p access refresh := by
  obtain ⟨k, hstart, hk⟩ := h.drew
  exact { h with drew := ⟨k, hle.trans hstart, hk⟩ }

/-! ## Callbacks -/

/-- Whoever has the email is known, or becomes so. -/
theorem granted_of_withPrincipal {identity : Identity} (hsound : w.memory.directory.Sound)
    (h : (s.withPrincipal identity s.beginSession).run (World.answer supply) w = (some response, w'))
    (h200 : response.status = 200)
    (hclock : ∀ n, w.calls ≤ n → n < w'.calls → supply.clock n = t) :
    ∃ p access refresh, response = .json 200 (Service.tokensJson access refresh) ∧
      Granted s supply w.calls w' t p access refresh ∧ p.email = identity.email := by
  unfold Service.withPrincipal at h
  obtain ⟨known, m, n, hknown, hn, hrun⟩ := of_run_stores h
  cases hknown
  obtain ⟨found, hfound, hrun⟩ := of_run_orFail hrun h200
  change Except.ok (w.memory.directory.findByEmail? identity.email) = Except.ok found at hfound
  cases hemail : w.memory.directory.findByEmail? identity.email with
  | some p =>
    rw [hemail] at hfound
    cases hfound
    have hmem : p ∈ w.memory.directory.users.values := List.mem_of_find?_eq_some hemail
    obtain ⟨access, refresh, hresponse, hgranted⟩ := granted_of_beginSession
      (w := { w with calls := n }) (hsound.mem_values_iff.mp hmem) hrun h200
      fun k hk => hclock k (hn.trans hk)
    refine ⟨p, access, refresh, hresponse, hgranted.weaken hn, ?_⟩
    simpa using List.find?_some hemail
  | none =>
    rw [hemail] at hfound
    cases hfound
    by_cases hprovisions : s.provisionsOwners = true
    · simp only [if_pos hprovisions] at hrun
      rw [Program.bind_eq, run_ask_andThen rfl] at hrun
      obtain ⟨made, m', n', hmade, hn', hrun⟩ := of_run_stores hrun
      cases hmade
      have hlater : w.calls ≤ n' := hn.trans ((Nat.le_succ n).trans hn')
      obtain ⟨p, hp, hrun⟩ := of_run_orFail hrun h200
      obtain ⟨hemail, hknown⟩ := Directory.known_of_createOrganization hp
      obtain ⟨access, refresh, hresponse, hgranted⟩ := granted_of_beginSession hknown hrun h200
        fun k hk => hclock k (hlater.trans hk)
      exact ⟨p, access, refresh, hresponse, hgranted.weaken hlater, hemail⟩
    · simp only [if_neg hprovisions] at hrun
      exact absurd h200 (status_ne_of_fail hrun)

/-- A code that is exchanged leads to tokens of the email that the identity provider vouches for. -/
theorem granted_of_redeem {code : Option String} (hsound : w.memory.directory.Sound)
    (h : (s.redeem code).run (World.answer supply) w = (some response, w'))
    (h200 : response.status = 200)
    (hclock : ∀ n, w.calls ≤ n → n < w'.calls → supply.clock n = t) :
    ∃ p access refresh, response = .json 200 (Service.tokensJson access refresh) ∧
      Granted s supply w.calls w' t p access refresh ∧
      ∃ c identity, code = some c ∧ p.email = identity.email ∧
        ⟨.exchange c, some (.ok identity)⟩ ∈ (s.redeem code).asked (World.answer supply) w := by
  unfold Service.redeem at h ⊢
  cases code with
  | none =>
    cases h
    cases h200
  | some c =>
    cases hprovider : s.provider with
    | none =>
      rw [hprovider] at h
      cases h
      cases h200
    | some provider =>
      simp only [hprovider] at h ⊢
      have hanswer : World.answer supply (.exchange c) w =
        (some (supply.exchange w.calls c), w.spent 1) := rfl
      rw [Program.run_call_some hanswer] at h
      rw [Program.asked_call_some hanswer]
      obtain ⟨identity, hidentity, hrun⟩ := of_run_orFail h h200
      obtain ⟨p, access, refresh, hresponse, hgranted, hemail⟩ := granted_of_withPrincipal
        (w := w.spent 1) hsound hrun h200 fun k hk => hclock k ((Nat.le_succ _).trans hk)
      refine ⟨p, access, refresh, hresponse, hgranted.weaken (Nat.le_succ _), c, identity, rfl,
        hemail, ?_⟩
      rw [hidentity]
      exact List.mem_cons_self

/-- Whoever comes back from the identity provider gets tokens behind a state that works. -/
theorem granted_of_callback {r : Request} (hr : Leg.callback.Takes r)
    (hsound : w.memory.directory.Sound)
    (h : (s.serve r).run (World.answer supply) w = (some response, w')) (h200 : response.status = 200)
    (hclock : ∀ n, w.calls ≤ n → n < w'.calls → supply.clock n = t) :
    ∃ p access refresh, response = .json 200 (Service.tokensJson access refresh) ∧
      Granted s supply w.calls w' t p access refresh ∧
      ∃ code identity, code? r = some code ∧ p.email = identity.email ∧
        ⟨.exchange code, some (.ok identity)⟩ ∈ (s.serve r).asked (World.answer supply) w := by
  rw [s.serve_callback hr] at h ⊢
  cases hstate : state? r with
  | none =>
    obtain ⟨refused, hcallback, hstatus⟩ := s.callback_of_no_state hstate
    rw [hcallback] at h
    cases h
    omega
  | some state =>
    obtain ⟨worked, v, hconsume, hmemory, hcalls⟩ : ∃ worked v,
        World.answer supply (.consumeState state (supply.clock w.calls)) (w.spent 1) = (some worked, v) ∧
          v.memory = w.memory ∧ v.calls = w.calls + 2 := ⟨_, _, rfl, rfl, rfl⟩
    rw [s.callback_of_state hstate] at h ⊢
    have hclock₁ := World.answer_clock supply w
    rw [Program.run_call_some hclock₁, Program.run_call_some hconsume] at h
    rw [Program.asked_call_some hclock₁, Program.asked_call_some hconsume]
    cases worked with
    | false =>
      cases h
      cases h200
    | true =>
      simp only [if_true] at h ⊢
      obtain ⟨p, access, refresh, hresponse, hgranted, code, identity, hcode, hemail, hasked⟩ :=
        granted_of_redeem (by rwa [hmemory]) h h200 fun k hk => hclock k (by omega)
      refine ⟨p, access, refresh, hresponse, hgranted.weaken (by omega), code, identity, hcode, hemail, ?_⟩
      exact List.mem_cons_of_mem _ (List.mem_cons_of_mem _ hasked)

/-! ## Refreshing -/

/-- The request exchanges a refresh secret. -/
def Renews (r : Request) : Prop := r.method = .post ∧ r.target.path = "/auth/refresh"

theorem serve_refresh {r : Request} (h : Renews r) : s.serve r = s.refresh r := by
  obtain ⟨hmethod, hpath⟩ := h
  have hroute : Route.ofPath? r.target.path = some .refresh := by
    rw [hpath]
    decide
  have haction : Route.refresh.action? r.method = some .refresh := by
    rw [hmethod]
    rfl
  have hhead : r.method ≠ .head := by simp [hmethod]
  unfold Service.serve
  rw [hroute]
  simp only [haction, andThen_whole hhead]
  rfl

/-- A secret that is exchanged is answered with the next one and an access token. -/
theorem run_refresh {r : Request} {form : SecretForm} {next access : String} {p : Principal} {v : World}
    (hform : r.json?.bind SecretForm.ofJson? = some form)
    (hexchange : (Handler.stores (Refresh.rotate form.secret (supply.secret (w.calls + 1))
      (supply.sessionId (w.calls + 2)) (supply.clock w.calls))).run (World.answer supply) (w.spent 3) =
        (some (.ok (next, p)), v))
    (hissue : s.signer.issue? p (supply.clock v.calls) = some (.ok access)) :
    (s.refresh r).run (World.answer supply) w =
      (some (.json 200 (Service.tokensJson access next)), v.spent 1) := by
  unfold Service.refresh
  simp only [hform, Program.bind_eq]
  rw [run_ask_andThen (World.answer_clock supply _), run_ask_andThen (World.answer_newSecret supply _),
    run_ask_andThen (World.answer_newSessionId supply _), Program.run_andThen]
  simp only [World.spent_spent, World.calls_spent, Nat.reduceAdd, hexchange, Handler.orFail,
    Service.withAccessToken, Program.bind_eq]
  rw [run_ask_andThen (World.answer_clock supply v), hissue]
  rfl

/-- Whoever presents a secret gets the tokens of the user whose session it finds. -/
theorem granted_of_refresh {r : Request} (hr : Renews r) (hsound : w.memory.directory.Sound)
    (h : (s.serve r).run (World.answer supply) w = (some response, w')) (h200 : response.status = 200)
    (hclock : ∀ n, w.calls ≤ n → n < w'.calls → supply.clock n = t) :
    ∃ p access refresh, response = .json 200 (Service.tokensJson access refresh) ∧
      Granted s supply w.calls w' t p access refresh ∧
      ∃ form, r.json?.bind SecretForm.ofJson? = some form ∧
        w.memory.sessions.table.owner? form.secret t = some p.id := by
  rw [serve_refresh hr] at h
  unfold Service.refresh at h
  cases hform : r.json?.bind SecretForm.ofJson? with
  | none =>
    rw [hform] at h
    cases h
    cases h200
  | some form =>
    simp only [hform, Program.bind_eq] at h
    rw [run_ask_andThen (World.answer_clock supply _), run_ask_andThen (World.answer_newSecret supply _),
      run_ask_andThen (World.answer_newSessionId supply _)] at h
    obtain ⟨rotated, m, n, hrotate, hn, h⟩ := of_run_stores h
    obtain ⟨⟨next, p⟩, rfl, h⟩ := of_run_orFail h h200
    obtain ⟨access, hissue, h⟩ := of_run_withAccessToken h h200
    cases h
    change w.calls + 3 ≤ n at hn
    rw [hclock n (by omega) (Nat.lt_succ_self n)] at hissue
    rw [hclock w.calls (Nat.le_refl _) (show w.calls < n + 1 by omega)] at hrotate
    obtain ⟨rfl, u, howner, hfind, hopened⟩ := Refresh.opened_of_rotate hrotate
    have hid : p.id = u := ((Keyed.find?_eq_some_iff_of_keyed hsound.keyed).mp hfind).2
    subst hid
    refine ⟨p, access, _, rfl, ⟨?_, hissue, ?_, hopened.unlocked, hopened.filed⟩, form, rfl, howner⟩
    · change m.directory.users.find? p.id = some p
      rw [hopened.directory]
      exact hfind
    · exact ⟨w.calls + 1, Nat.le_succ _, show w.calls + 1 < n + 1 by omega, rfl⟩

end Api

end TenantAuth
