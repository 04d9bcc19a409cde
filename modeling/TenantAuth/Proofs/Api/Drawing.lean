-- Where secrets come from. Whatever the service is asked for, a session comes in under the hash of
-- a secret that was drawn for it on the way there, and under no other hash.

import TenantAuth.Api.Router
import TenantAuth.Api.World
import TenantAuth.Proofs.Authentication
import TenantAuth.Proofs.Program
import TenantAuth.Proofs.Session.Request
import TenantAuth.Proofs.Session.Sparing

namespace TenantAuth.Api

open TenantAuth.Http

namespace Call

/-- What a call asks of the sessions, if it does. -/
def session? : Call BackendCall → Option SessionCall
  | .backend (.sessions c) | .within _ (.sessions c) => some c
  | _ => none

/-- The hash under which a call is to file a session. -/
def newHash? (c : Call BackendCall) : Option String := c.session?.bind SessionCall.newHash?

/-- The secrets that come with a reply. -/
def drawn : (c : Call BackendCall) → c.Reply BackendCall.Reply → List String
  | .newSecret, secret => [secret]
  | _, _ => []

/-- If the call files a session, then under the hash of one of some secrets. -/
def FilesOneOf (secrets : List String) (c : Call BackendCall) : Prop :=
  ∀ hash, c.newHash? = some hash → ∃ secret ∈ secrets, Secret.hash secret = hash

theorem filesOneOf_of_newHash? {c : Call BackendCall} (h : c.newHash? = none) (secrets : List String) :
    c.FilesOneOf secrets := by
  intro hash hhash
  rw [h] at hhash
  cases hhash

end Call

/-! ## Computations that draw what they file -/

variable {α β : Type} {secrets : List String}

/-- After some secrets have been drawn, sessions are filed under the hashes of these alone, and of
those that are drawn from here on. -/
def Draws (secrets : List String) : Handler α → Prop
  | .done _ | .broken => True
  | .call c next => c.FilesOneOf secrets ∧ ∀ reply, Draws (c.drawn reply ++ secrets) (next reply)

/-- What goes on with secrets of its own need not know which were drawn before. -/
theorem draws_andThen {p : Handler α} {f : α → Handler β} (h : Draws secrets p)
    (hf : ∀ a secrets, Draws secrets (f a)) : Draws secrets (p.andThen f) := by
  induction p generalizing secrets with
  | done a => exact hf a secrets
  | broken => trivial
  | call c next ih => exact ⟨h.1, fun reply => ih reply (h.2 reply)⟩

theorem draws_ask {c : Call BackendCall} (h : c.newHash? = none) : Draws secrets (Handler.ask c) :=
  ⟨Call.filesOneOf_of_newHash? h secrets, fun _ => trivial⟩

/-- What goes on with the reply may file what came with it. -/
theorem draws_ask_andThen {c : Call BackendCall} (h : c.newHash? = none)
    {f : c.Reply BackendCall.Reply → Handler α}
    (hf : ∀ reply, Draws (c.drawn reply ++ secrets) (f reply)) :
    Draws secrets ((Handler.ask c).andThen f) :=
  ⟨Call.filesOneOf_of_newHash? h secrets, hf⟩

/-- The stores are no source of secrets. -/
theorem draws_stores {p : BackendProgram α}
    (h : p.Avoids fun b => ¬ (Call.backend b).FilesOneOf secrets) :
    Draws secrets (Handler.stores p) := by
  induction p with
  | done a => trivial
  | broken => trivial
  | call b next ih => exact ⟨not_not.mp h.1, fun reply => ih reply (h.2 reply)⟩

theorem draws_directory (c : DirectoryCall) :
    Draws secrets (Handler.stores (BackendProgram.directory c)) :=
  draws_ask rfl

/-! ### The requests on the sessions -/

theorem avoids_session {c : SessionCall} {f : c.Reply → BackendProgram α}
    (h : ∀ hash, c.newHash? = some hash → ∃ secret ∈ secrets, Secret.hash secret = hash)
    (hf : ∀ reply, (f reply).Avoids fun b => ¬ (Call.backend b).FilesOneOf secrets) :
    (BackendProgram.session c >>= f).Avoids fun b => ¬ (Call.backend b).FilesOneOf secrets :=
  ⟨not_not.mpr h, hf⟩

theorem avoids_session_of_newHash? {c : SessionCall} {f : c.Reply → BackendProgram α}
    (h : c.newHash? = none)
    (hf : ∀ reply, (f reply).Avoids fun b => ¬ (Call.backend b).FilesOneOf secrets) :
    (BackendProgram.session c >>= f).Avoids fun b => ¬ (Call.backend b).FilesOneOf secrets := by
  refine avoids_session (fun hash hhash => ?_) hf
  rw [h] at hhash
  cases hhash

theorem avoids_loadUser (u : UserId) :
    (Refresh.loadUser u).Avoids fun b => ¬ (Call.backend b).FilesOneOf secrets := by
  refine ⟨not_not.mpr (Call.filesOneOf_of_newHash? rfl secrets), fun reply => ?_⟩
  rcases reply with e | _ | p <;> trivial

theorem avoids_create {secret : String} (hsecret : secret ∈ secrets) (u : UserId) (id : SessionId)
    (now : Instant) :
    (Refresh.create u secret id now).Avoids fun b => ¬ (Call.backend b).FilesOneOf secrets := by
  unfold Refresh.create
  split
  · trivial
  · next s hs =>
    refine avoids_session ?_ fun reply => by cases reply <;> trivial
    rintro hash ⟨⟩
    exact ⟨secret, hsecret, (Session.fields_of_fresh? hs).2.1.symm⟩

theorem avoids_validate (secret : String) (now : Instant) :
    (Refresh.validate secret now).Avoids fun b => ¬ (Call.backend b).FilesOneOf secrets := by
  refine avoids_session_of_newHash? rfl fun reply => ?_
  rcases reply with e | _ | s
  · trivial
  · trivial
  · show Program.Avoids _ (ite _ _ _)
    split
    · exact avoids_session_of_newHash? rfl fun reply => by cases reply <;> trivial
    · exact avoids_loadUser s.user

theorem avoids_rotate {next : String} (hnext : next ∈ secrets) (secret : String) (id : SessionId)
    (now : Instant) :
    (Refresh.rotate secret next id now).Avoids fun b => ¬ (Call.backend b).FilesOneOf secrets := by
  refine avoids_session ?_ fun reply => ?_
  · rintro hash ⟨⟩
    exact ⟨next, hnext, rfl⟩
  · rcases reply with e | _ | s
    · trivial
    · trivial
    · show Program.Avoids _ (ite _ _ _)
      split
      · trivial
      · refine Program.avoids_andThen (avoids_loadUser s.user) fun loaded => ?_
        cases loaded with
        | ok p => trivial
        | error e => exact avoids_session_of_newHash? rfl fun reply => by cases reply <;> trivial

/-- A session is filed under the secret that was generated for the request, if any. -/
theorem draws_request (r : Refresh.Request) (h : ∀ secret ∈ r.generated?, secret ∈ secrets) :
    Draws secrets (Handler.stores r.program) := by
  refine draws_stores ?_
  cases r with
  | create user secret id now => exact avoids_create (h secret rfl) user id now
  | validate secret now => exact avoids_validate secret now
  | rotate secret next id now => exact avoids_rotate (h next rfl) secret id now
  | revoke | revokeSecret | sweep =>
    exact avoids_session_of_newHash? rfl fun reply => by cases reply <;> trivial

/-! ### The handlers -/

theorem draws_fail (e : AuthError) : Draws secrets (Handler.fail e) := by
  unfold Handler.fail
  cases Answer.event? e with
  | none => trivial
  | some event => exact draws_ask rfl

theorem draws_orFail {ε : Type} (toAuthError : ε → AuthError) (reply : Except ε α)
    {next : α → Handler Response} (h : ∀ a, Draws secrets (next a)) :
    Draws secrets (Handler.orFail toAuthError reply next) := by
  cases reply with
  | error e => exact draws_fail (toAuthError e)
  | ok a => exact h a

namespace Service

variable (s : Service)

theorem draws_health : Draws secrets health := by
  refine draws_andThen ?_ fun fault secrets => draws_andThen (draws_ask rfl) fun now _ => trivial
  refine draws_andThen (draws_ask rfl) fun reply secrets => ?_
  rcases reply with _ | e | _
  · trivial
  · exact draws_andThen (draws_ask rfl) fun _ _ => trivial
  · trivial

theorem draws_login : Draws secrets s.login := by
  unfold login
  cases s.provider with
  | none => trivial
  | some provider =>
    refine draws_andThen (draws_ask rfl) fun state secrets => ?_
    refine draws_andThen (draws_ask rfl) fun now secrets => ?_
    exact draws_andThen (draws_ask rfl) fun _ _ => trivial

theorem draws_withAccessToken (p : Principal) {next : String → Handler Response}
    (h : ∀ token secrets, Draws secrets (next token)) : Draws secrets (s.withAccessToken p next) := by
  refine draws_andThen (draws_ask rfl) fun now secrets => ?_
  cases s.signer.issue? p now with
  | none => trivial
  | some token => exact draws_orFail _ token fun token => h token secrets

theorem draws_beginSession (p : Principal) : Draws secrets (s.beginSession p) := by
  refine draws_withAccessToken s p fun access secrets => ?_
  refine draws_andThen (draws_ask rfl) fun now secrets => ?_
  -- the secret that is drawn here is the one to be filed
  refine draws_ask_andThen rfl fun secret => draws_ask_andThen rfl fun id => ?_
  refine draws_andThen (draws_request (.create p.id secret id now) ?_) fun created secrets => ?_
  · rintro _ ⟨⟩
    exact List.mem_cons_self
  · cases created with
    | ok refresh => trivial
    | error e => exact draws_andThen (draws_ask rfl) fun _ _ => draws_fail _

theorem draws_withPrincipal (identity : Identity) {next : Principal → Handler Response}
    (h : ∀ p secrets, Draws secrets (next p)) : Draws secrets (s.withPrincipal identity next) := by
  refine draws_andThen (draws_directory _) fun known secrets => ?_
  refine draws_orFail _ known fun known => ?_
  cases known with
  | some p => exact h p secrets
  | none =>
    by_cases hprovisions : s.provisionsOwners = true
    · simp only [if_pos hprovisions]
      refine draws_andThen (draws_ask rfl) fun new secrets => ?_
      exact draws_andThen (draws_directory _) fun made secrets =>
        draws_orFail _ made fun p => h p secrets
    · simp only [if_neg hprovisions]
      exact draws_fail _

theorem draws_callback (query : Option String) : Draws secrets (s.callback query) := by
  simp only [callback]
  split
  · trivial
  · split
    · trivial
    · refine draws_andThen (draws_ask rfl) fun now secrets => ?_
      refine draws_andThen (draws_ask rfl) fun worked secrets => ?_
      cases worked with
      | false => trivial
      | true =>
        simp only [if_true]
        split
        · trivial
        · trivial
        · refine draws_andThen (draws_ask rfl) fun identity secrets => ?_
          exact draws_orFail id identity fun identity =>
            s.draws_withPrincipal identity fun p secrets => s.draws_beginSession p

theorem draws_refresh (r : Request) : Draws secrets (s.refresh r) := by
  unfold refresh
  cases r.json?.bind SecretForm.ofJson? with
  | none => trivial
  | some form =>
    refine draws_andThen (draws_ask rfl) fun now secrets => ?_
    refine draws_ask_andThen rfl fun next => draws_ask_andThen rfl fun id => ?_
    refine draws_andThen (draws_request (.rotate form.secret next id now) ?_) fun rotated secrets => ?_
    · rintro _ ⟨⟩
      exact List.mem_cons_self
    · exact draws_orFail _ rotated fun pair =>
        s.draws_withAccessToken pair.2 fun access secrets => trivial

theorem draws_logout (r : Request) : Draws secrets (logout r) := by
  unfold logout
  cases r.json?.bind SecretForm.ofJson? with
  | none => trivial
  | some form =>
    refine draws_andThen (draws_request (.revokeSecret form.secret) (by simp [Refresh.Request.generated?]))
      fun revoked secrets => ?_
    exact draws_orFail _ revoked fun _ => trivial

theorem draws_createOrganization (r : Request) : Draws secrets (createOrganization r) := by
  unfold createOrganization
  split
  · trivial
  · split
    · trivial
    · refine draws_andThen (draws_ask rfl) fun new secrets => ?_
      exact draws_andThen (draws_directory _) fun created secrets =>
        draws_orFail _ created fun _ => trivial

theorem draws_listMembers (o : OrganizationId) : Draws secrets (listMembers o) :=
  draws_andThen (draws_directory _) fun members _ => draws_orFail _ members fun _ => trivial

theorem draws_addMember (o : OrganizationId) (r : Request) : Draws secrets (addMember o r) := by
  unfold addMember
  split
  · trivial
  · split
    · trivial
    · refine draws_andThen (draws_ask rfl) fun new secrets => ?_
      refine draws_andThen (draws_directory _) fun added secrets => ?_
      split
      · trivial
      · trivial
      · exact draws_fail _

theorem draws_enforce (g : Gate) (principal : Option Principal) (target : Option OrganizationId)
    {inner : Handler Response} (h : Draws secrets inner) :
    Draws secrets (g.enforce principal target inner) := by
  unfold Gate.enforce
  split
  · trivial
  · split
    · exact h
    · trivial

theorem draws_act (r : Request) (target : Option OrganizationId) (principal : Option Principal)
    (a : Action) : Draws secrets (s.act r target principal a) := by
  cases a with
  | health => exact draws_health
  | keys => trivial
  | login => exact s.draws_login
  | callback => exact s.draws_callback _
  | refresh => exact s.draws_refresh r
  | logout => exact draws_logout r
  | createOrganization => exact draws_enforce _ _ _ (draws_createOrganization r)
  | listMembers =>
    refine draws_enforce _ _ _ ?_
    cases target with
    | none => trivial
    | some o => exact draws_listMembers o
  | addMember =>
    refine draws_enforce _ _ _ ?_
    cases target with
    | none => trivial
    | some o => exact draws_addMember o r
  | whoami => cases principal <;> trivial

theorem draws_authenticated (header : Option String) {inner : Principal → Handler Response}
    (h : ∀ p secrets, Draws secrets (inner p)) :
    Draws secrets (authenticated s.signer header inner) := by
  refine draws_andThen (draws_ask rfl) fun now secrets => ?_
  refine draws_andThen ?_ fun verdict secrets => ?_
  · unfold Authentication.authenticate
    split
    · trivial
    · split
      · trivial
      · rw [Authentication.principalOf_eq]
        exact ⟨Call.filesOneOf_of_newHash? rfl secrets, fun _ => trivial⟩
  · cases verdict with
    | ok p => exact h p secrets
    | error e => exact draws_fail e

theorem draws_organizationScope (path : String) {inner : Option OrganizationId → Handler Response}
    (h : ∀ target, Draws secrets (inner target)) : Draws secrets (organizationScope path inner) := by
  unfold organizationScope
  split
  · exact h none
  · split
    · exact h _
    · trivial

theorem draws_behindGates (route : Route) (r : Request)
    {inner : Option OrganizationId → Option Principal → Handler Response}
    (h : ∀ target principal secrets, Draws secrets (inner target principal)) :
    Draws secrets (s.behindGates route r inner) := by
  have hscoped : ∀ secrets, Draws secrets (organizationScope r.target.path fun target =>
      authenticated s.signer (r.header? "authorization") fun p => inner target (some p)) := by
    intro secrets
    refine draws_organizationScope _ fun target => ?_
    exact s.draws_authenticated _ fun p => h target (some p)
  cases route with
  | organizations => exact hscoped secrets
  | members id => exact hscoped secrets
  | whoami => exact s.draws_authenticated _ fun p => h none (some p)
  | health | keys | login | callback | refresh | logout => exact h none none secrets

/-- Whatever a request is: a session comes in under a secret that is drawn for it. -/
theorem draws_serve (r : Request) : Draws secrets (s.serve r) := by
  unfold serve
  cases Route.ofPath? r.target.path with
  | none => trivial
  | some route =>
    cases haction : route.action? r.method with
    | none =>
      simp only [haction]
      exact draws_andThen (s.draws_behindGates route r fun _ _ _ => trivial) fun _ _ => trivial
    | some action =>
      simp only [haction]
      refine draws_andThen ?_ fun _ _ => trivial
      exact s.draws_behindGates route r fun target principal secrets => s.draws_act r target principal action

end Service

/-! ## Runs -/

variable {supply : Supply}

/-- The hash is that of a secret which one of these calls drew: the first of them is the `start`-th
of all, and the last one comes before the `n`-th. -/
def Supply.Drew (supply : Supply) (start n : Nat) (hash : String) : Prop :=
  ∃ k, start ≤ k ∧ k < n ∧ Secret.hash (supply.secret k) = hash

theorem World.calls_answer (supply : Supply) (c : Call BackendCall) (w : World) :
    (World.answer supply c w).2.calls = w.calls + 1 := by
  cases c with
  | within limit b =>
    simp only [World.answer]
    split <;> rfl
  | _ => rfl

/-- What comes with a reply was drawn by that call. -/
theorem World.drawn_answer {c : Call BackendCall} {w w' : World} {reply : c.Reply BackendCall.Reply}
    (h : World.answer supply c w = (some reply, w')) {secret : String}
    (hsecret : secret ∈ c.drawn reply) : supply.secret w.calls = secret := by
  cases c with
  | newSecret =>
    cases h
    exact (List.mem_singleton.mp hsecret).symm
  | _ => cases hsecret

theorem calls_le_run (p : Handler α) (w : World) :
    w.calls ≤ (p.run (World.answer supply) w).2.calls := by
  induction p generalizing w with
  | done a => exact Nat.le_refl _
  | broken => exact Nat.le_refl _
  | call c next ih =>
    have hcalls := World.calls_answer supply c w
    rcases hreply : World.answer supply c w with ⟨_ | reply, w'⟩
    · rw [hreply] at hcalls
      rw [Program.run_call_none hreply]
      exact hcalls.symm ▸ Nat.le_succ _
    · rw [hreply] at hcalls
      rw [Program.run_call_some hreply]
      exact Nat.le_trans (hcalls.symm ▸ Nat.le_succ _) (ih reply w')

/-- What every call keeps that files a session, if it does, under a secret drawn since the start, a
run keeps as well. -/
theorem run_of_draws {P : World → Prop} {allowed : Call BackendCall → Prop} {start : Nat}
    (hcall : ∀ c w, allowed c → (∀ hash, c.newHash? = some hash → supply.Drew start w.calls hash) →
      P w → P (World.answer supply c w).2)
    {p : Handler α} (h : Draws secrets p) {w : World} (hstart : start ≤ w.calls)
    (hsecrets : ∀ secret ∈ secrets, ∃ n, start ≤ n ∧ n < w.calls ∧ supply.secret n = secret)
    (hasked : ∀ a ∈ p.asked (World.answer supply) w, allowed a.call) (hP : P w) :
    P (p.run (World.answer supply) w).2 := by
  induction p generalizing secrets w with
  | done a => exact hP
  | broken => exact hP
  | call c next ih =>
    obtain ⟨hfiles, hnext⟩ := h
    have hdrawn : ∀ hash, c.newHash? = some hash → supply.Drew start w.calls hash := by
      intro hash hhash
      obtain ⟨secret, hsecret, rfl⟩ := hfiles hash hhash
      obtain ⟨n, hn, hlt, rfl⟩ := hsecrets secret hsecret
      exact ⟨n, hn, hlt, rfl⟩
    rcases hreply : World.answer supply c w with ⟨_ | reply, w'⟩
    · rw [Program.asked_call_none hreply] at hasked
      have hkept := hcall c w (hasked _ List.mem_cons_self) hdrawn hP
      rw [Program.run_call_none hreply]
      rwa [hreply] at hkept
    · rw [Program.asked_call_some hreply] at hasked
      have hkept := hcall c w (hasked _ List.mem_cons_self) hdrawn hP
      have hcalls : w'.calls = w.calls + 1 := by rw [← World.calls_answer supply c w, hreply]
      rw [hreply] at hkept
      rw [Program.run_call_some hreply]
      refine ih reply (hnext reply) (by omega) (fun secret hsecret => ?_)
        (fun a ha => hasked a (List.mem_cons_of_mem _ ha)) hkept
      rcases List.mem_append.mp hsecret with hsecret | hsecret
      · exact ⟨w.calls, hstart, by omega, World.drawn_answer hreply hsecret⟩
      · obtain ⟨n, hn, hlt, heq⟩ := hsecrets secret hsecret
        exact ⟨n, hn, by omega, heq⟩

end TenantAuth.Api
