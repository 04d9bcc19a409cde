-- The service in step with itself. Told the same but for the texts of failures, every handler asks
-- for the same and ends with the same, and logs the same but for a masked text.

import TenantAuth.Api.Fault
import TenantAuth.Proofs.Api.Wording
import TenantAuth.Proofs.Log.Retelling

namespace TenantAuth

variable {T C : String → String → Prop}

/-! ## Calls and replies -/

/-- The same reply of a store, but for the texts of failures. -/
def BackendCall.Told (T C : String → String → Prop) :
    (b : BackendCall) → b.Reply → b.Reply → Prop
  | .sessions _ => Matches (StoreError.Retold T C) Eq
  | .directory _ => Matches (StoreError.Retold T C) Eq

theorem BackendCall.told_refl (b : BackendCall) (x : b.Reply) : b.Told T C x x := by
  cases b with
  | sessions c => exact Matches.refl .same x
  | directory c => exact Matches.refl .same x

theorem BackendCall.told_failed (b : BackendCall) {e e' : StoreError} (h : e.Retold T C e') :
    b.Told T C (b.failed e) (b.failed e') := by
  cases b with
  | sessions c => exact .error h
  | directory c => exact .error h

namespace Api

open TenantAuth.Http

namespace Call

def Logs : Call BackendCall → Prop
  | .log _ => True
  | _ => False

/-- The same reply, but for the texts of failures. A conflict, of which clients are told what it
says, is told in the same words, except where the store is only checked. -/
def Told (T : String → String → Prop) : (c : Call BackendCall) →
    c.Reply BackendCall.Reply → c.Reply BackendCall.Reply → Prop
  | .backend b => b.Told T noOther
  | .within _ b => Option.Rel (b.Told T T)
  | .exchange _ => Matches (AuthError.Retold T) Eq
  | .clock | .newSecret | .newLoginState | .newSessionId | .newOrganization | .newUser
  | .fileState .. | .consumeState .. | .log _ => Eq

theorem told_refl (c : Call BackendCall) (x : c.Reply BackendCall.Reply) : c.Told T x x := by
  cases c with
  | backend b => exact b.told_refl x
  | within limit b =>
    cases x with
    | none => exact .none
    | some x => exact .some (b.told_refl x)
  | exchange code => exact Matches.refl .same x
  | _ => rfl

end Call

/-- The same call, or discreet events for the log that are the same but for a masked text. -/
inductive AskedDiscreetly (T : String → String → Prop) :
    Call BackendCall → Call BackendCall → Prop
  | same (c : Call BackendCall) (h : ¬ c.Logs) : AskedDiscreetly T c c
  | log {e e' : Event} (h : e.RetoldDiscreetly T e') : AskedDiscreetly T (.log e) (.log e')

/-- The same reply but for the texts of failures; the log says nothing. -/
inductive ToldDiscreetly (T : String → String → Prop) :
    (c c' : Call BackendCall) → c.Reply BackendCall.Reply → c'.Reply BackendCall.Reply → Prop
  | same (c : Call BackendCall) {x x' : c.Reply BackendCall.Reply} (h : c.Told T x x') :
      ToldDiscreetly T c c x x'
  | log (e e' : Event) : ToldDiscreetly T (.log e) (.log e') () ()

/-- Handlers in step with each other that are told the same, but for the texts of failures. -/
def retelling (T : String → String → Prop) :
    Program.Pairing (Call BackendCall) (Call.Reply BackendCall.Reply) where
  calls := AskedDiscreetly T
  replies := ToldDiscreetly T

/-- Computations over the stores in step with each other. -/
def storesRetelling (T : String → String → Prop) :
    Program.Pairing BackendCall BackendCall.Reply where
  calls := Eq
  replies := Program.RepliesTo (BackendCall.Told T noOther)

variable {α β ε : Type}

/-- Handlers in step with each other that end with the same. -/
abbrev InStep (T : String → String → Prop) : Handler α → Handler α → Prop :=
  Program.InStep (retelling T) Eq

theorem inStep_done (a : α) : InStep T (.done a) (.done a) := .done rfl

theorem inStep_ask {c : Call BackendCall} (hc : ¬ c.Logs)
    {f f' : c.Reply BackendCall.Reply → Handler α}
    (hf : ∀ x x', c.Told T x x' → InStep T (f x) (f' x')) :
    InStep T ((Handler.ask c).andThen f) ((Handler.ask c).andThen f') := by
  refine .call (.same c hc) fun x x' hx => ?_
  cases hx with
  | same _ hx => exact hf x x' hx
  | log e => exact absurd trivial hc

/-- Of a call in whose reply no text of a failure can be, the same is told. -/
theorem inStep_askSame {c : Call BackendCall} (hc : ¬ c.Logs)
    (hsame : ∀ x x', c.Told T x x' → x = x') {f f' : c.Reply BackendCall.Reply → Handler α}
    (hf : ∀ x, InStep T (f x) (f' x)) :
    InStep T ((Handler.ask c).andThen f) ((Handler.ask c).andThen f') :=
  inStep_ask hc fun x x' hx => hsame x x' hx ▸ hf x

theorem inStep_log {e e' : Event} (h : e.RetoldDiscreetly T e') {p p' : Handler α}
    (hp : InStep T p p') :
    InStep T ((Handler.ask (.log e)).andThen fun _ => p)
      ((Handler.ask (.log e')).andThen fun _ => p') :=
  .call (.log h) fun _ _ _ => hp

/-- A computation over the stores with results that match, and what goes on with these. -/
theorem inStep_stores {E : ε → ε → Prop} {p : BackendProgram (Except ε β)}
    (hp : Program.InStep (storesRetelling T) (Matches E Eq) p p)
    {f f' : Except ε β → Handler α}
    (hf : ∀ x x', Matches E Eq x x' → InStep T (f x) (f' x')) :
    InStep T ((Handler.stores p).andThen f) ((Handler.stores p).andThen f') := by
  have hstores : Program.InStep (retelling T) (Matches E Eq) (Handler.stores p)
      (Handler.stores p) := by
    refine hp.interpret fun b b' hb => ?_
    cases hb
    refine .call (.same (.backend b) id) fun x x' hx => .done ?_
    cases hx with
    | same _ hx => exact .same b hx
  exact hstores.andThen hf

/-! ## The computations over the stores -/

/-- A store is asked, and what goes on with the reply. -/
theorem inStep_backend (b : BackendCall) {V : α → β → Prop} {f : b.Reply → BackendProgram α}
    {f' : b.Reply → BackendProgram β}
    (hf : ∀ x x', b.Told T noOther x x' → Program.InStep (storesRetelling T) V (f x) (f' x')) :
    Program.InStep (storesRetelling T) V ((Program.perform b).andThen f)
      ((Program.perform b).andThen f') := by
  refine .call rfl fun x x' hx => ?_
  cases hx with
  | same hx => exact hf x x' hx

theorem inStep_directory (c : DirectoryCall) :
    Program.InStep (storesRetelling T) (Matches (StoreError.Retold T noOther) Eq)
      (BackendProgram.directory c) (BackendProgram.directory c) :=
  inStep_backend (.directory c) fun _ _ hx => .done hx

theorem inStep_loadUser (user : UserId) :
    Program.InStep (storesRetelling T) (Matches (RefreshError.Retold T) Eq)
      (Refresh.loadUser user) (Refresh.loadUser user) := by
  refine inStep_backend (.directory (.findById user)) fun x x' hx => ?_
  cases hx with
  | error h => exact .done (.error (.store h))
  | @ok known _ h =>
    cases h
    cases known with
    | none => exact .done (.error (.same _))
    | some p => exact .done (.ok rfl)

theorem inStep_create (user : UserId) (secret : String) (id : SessionId) (now : Instant) :
    Program.InStep (storesRetelling T) (Matches (RefreshError.Retold T) Eq)
      (Refresh.create user secret id now) (Refresh.create user secret id now) := by
  unfold Refresh.create
  cases Session.fresh? id user (Secret.hash secret) now with
  | none => exact .broken
  | some session =>
    refine inStep_backend (.sessions (.replace session)) fun x x' hx => ?_
    cases hx with
    | error h => exact .done (.error (.store h))
    | ok h => exact .done (.ok rfl)

theorem inStep_rotate (secret next : String) (id : SessionId) (now : Instant) :
    Program.InStep (storesRetelling T) (Matches (RefreshError.Retold T) Eq)
      (Refresh.rotate secret next id now) (Refresh.rotate secret next id now) := by
  refine inStep_backend (.sessions (.rotate _ _ id now)) fun x x' hx => ?_
  cases hx with
  | error h => exact .done (.error (.store h))
  | @ok found _ h =>
    cases h
    cases found with
    | none => exact .done (.error (.same _))
    | some consumed =>
      dsimp only
      split
      · exact .done (.error (.same _))
      · refine (inStep_loadUser consumed.user).andThen fun loaded loaded' hloaded => ?_
        cases hloaded with
        | ok h =>
          cases h
          exact .done (.ok rfl)
        | error hfailure =>
          -- whatever became of the user, what the next failure says is told
          refine inStep_backend (.sessions (.deleteForUser consumed.user)) fun y y' hy => ?_
          cases hy with
          | error h => exact .done (.error (.store h))
          | ok h => exact .done (.error hfailure)

theorem inStep_revokeSecret (secret : String) :
    Program.InStep (storesRetelling T) (Matches (RefreshError.Retold T) Eq)
      (Refresh.revokeSecret secret) (Refresh.revokeSecret secret) := by
  refine inStep_backend (.sessions (.deleteByHash _)) fun x x' hx => ?_
  cases hx with
  | error h => exact .done (.error (.store h))
  | ok h => exact .done (.ok rfl)

theorem inStep_principalOf (c : Claims) :
    Program.InStep (storesRetelling T) (Matches (AuthError.Retold T) Eq)
      (Authentication.principalOf c) (Authentication.principalOf c) := by
  refine inStep_backend (.directory (.findById c.user)) fun x x' hx => ?_
  cases hx with
  | error h => exact .done (.error h.toAuthError)
  | @ok known _ h =>
    cases h
    cases known with
    | none => exact .done (.error (.same _))
    | some p =>
      dsimp only
      split
      · exact .done (.ok rfl)
      · exact .done (.error (.same _))

theorem inStep_authenticate (signer : Signer) (header : Option String) (now : Instant) :
    Program.InStep (storesRetelling T) (Matches (AuthError.Retold T) Eq)
      (Authentication.authenticate signer header now)
      (Authentication.authenticate signer header now) := by
  unfold Authentication.authenticate
  split
  · exact .done (.error (.same _))
  · split
    · exact .done (.error (.same _))
    · exact inStep_principalOf _

/-! ## The handlers -/

theorem not_sensitive_unavailable : ¬ Sensitive "backing store unavailable" := by decide +kernel

theorem not_sensitive_internal : ¬ Sensitive "internal error" := by decide +kernel

/-- What is answered to a failure of the inside does not depend on its text. -/
theorem inStep_fail {e e' : AuthError} (h : e.Retold T e') :
    InStep T (Handler.fail e) (Handler.fail e') := by
  cases h with
  | same =>
    cases e with
    | unauthenticated | forbidden | notFound | conflict => exact inStep_done _
    | transient text =>
      exact inStep_log (.refl (Event.discreet_ofFailure text not_sensitive_unavailable))
        (inStep_done _)
    | internal text =>
      exact inStep_log (.refl (Event.discreet_ofFailure text not_sensitive_internal))
        (inStep_done _)
  | transient h =>
    exact inStep_log (Event.retold_ofFailure h not_sensitive_unavailable) (inStep_done _)
  | internal h =>
    exact inStep_log (Event.retold_ofFailure h not_sensitive_internal) (inStep_done _)

theorem inStep_orFail {E : ε → ε → Prop} {toAuthError : ε → AuthError}
    (hE : ∀ e e', E e e' → (toAuthError e).Retold T (toAuthError e')) {x x' : Except ε β}
    (h : Matches E Eq x x') {next : β → Handler Response}
    (hnext : ∀ b, InStep T (next b) (next b)) :
    InStep T (Handler.orFail toAuthError x next) (Handler.orFail toAuthError x' next) := by
  cases h with
  | error h => exact inStep_fail (hE _ _ h)
  | ok h =>
    cases h
    exact hnext _

/-- The directory is asked, and where it fails that is the answer. -/
theorem inStep_orFail_directory (c : DirectoryCall) {next : c.Answer → Handler Response}
    (hnext : ∀ a, InStep T (next a) (next a)) :
    InStep T
      ((Handler.stores (BackendProgram.directory c)).andThen fun x =>
        Handler.orFail StoreError.toAuthError x next)
      ((Handler.stores (BackendProgram.directory c)).andThen fun x =>
        Handler.orFail StoreError.toAuthError x next) :=
  inStep_stores (inStep_directory c) fun _ _ hx =>
    inStep_orFail (fun _ _ h => h.toAuthError) hx hnext

namespace Service

variable (s : Service)

theorem inStep_health : InStep T health health := by
  have hcheck : InStep T checkSessions checkSessions := by
    refine inStep_ask id fun x x' hx => ?_
    cases hx with
    | none => exact inStep_done _
    | some hx =>
      cases hx with
      | ok h => exact inStep_done _
      | error h =>
        have hdiscreet : ∀ e : StoreError, Event.Discreet
            ⟨.warn, "session store health check failed", [("error", redact e.message)]⟩ :=
          fun e => Event.discreet_of_field (by decide +kernel) (by decide +kernel)
            (not_sensitive_redact _)
        exact inStep_log ⟨h.masked _ _ _, hdiscreet _, hdiscreet _⟩ (inStep_done _)
  refine hcheck.andThen fun fault fault' h => ?_
  cases h
  exact inStep_askSame id (fun _ _ => id) fun now => inStep_done _

theorem inStep_login : InStep T s.login s.login := by
  unfold login
  cases s.provider with
  | none => exact inStep_done _
  | some provider =>
    refine inStep_askSame id (fun _ _ => id) fun state => ?_
    refine inStep_askSame id (fun _ _ => id) fun now => ?_
    exact inStep_askSame id (fun _ _ => id) fun _ => inStep_done _

theorem inStep_withAccessToken (p : Principal) {next : String → Handler Response}
    (hnext : ∀ token, InStep T (next token) (next token)) :
    InStep T (s.withAccessToken p next) (s.withAccessToken p next) := by
  refine inStep_askSame id (fun _ _ => id) fun now => ?_
  cases s.signer.issue? p now with
  | none => exact .broken
  | some token =>
    cases token with
    | error e => exact inStep_fail (.same _)
    | ok token => exact hnext token

theorem inStep_beginSession (p : Principal) :
    InStep T (s.beginSession p) (s.beginSession p) := by
  refine inStep_withAccessToken s p fun access => ?_
  refine inStep_askSame id (fun _ _ => id) fun now => ?_
  refine inStep_askSame id (fun _ _ => id) fun secret => ?_
  refine inStep_askSame id (fun _ _ => id) fun id' => ?_
  refine inStep_stores (inStep_create p.id secret id' now) fun x x' hx => ?_
  cases hx with
  | ok h =>
    cases h
    exact inStep_done _
  | error h =>
    have hdiscreet : Event.Discreet
        ⟨.warn, "failed to create refresh session", [("user_id", p.id.toText)]⟩ :=
      Event.discreet_of_field (by decide +kernel) (by decide +kernel)
        (Uuid.not_sensitive_toText p.id.uuid)
    exact inStep_log (.refl hdiscreet) (inStep_fail h.toAuthError)

theorem inStep_withPrincipal (identity : Identity) {next : Principal → Handler Response}
    (hnext : ∀ p, InStep T (next p) (next p)) :
    InStep T (s.withPrincipal identity next) (s.withPrincipal identity next) := by
  refine inStep_orFail_directory (.findByEmail identity.email) fun known => ?_
  cases known with
  | some p => exact hnext p
  | none =>
    dsimp only
    split
    · refine inStep_askSame id (fun _ _ => id) fun new => ?_
      exact inStep_orFail_directory (.provisionOwner identity.email identity.name new) hnext
    · exact inStep_fail (.same _)

theorem inStep_callback (query : Option String) :
    InStep T (s.callback query) (s.callback query) := by
  unfold callback
  dsimp only
  split
  · exact inStep_done _
  · split
    · exact inStep_done _
    · refine inStep_askSame id (fun _ _ => id) fun now => ?_
      refine inStep_askSame id (fun _ _ => id) fun worked => ?_
      cases worked with
      | false => exact inStep_done _
      | true =>
        simp only [if_true]
        split
        · exact inStep_done _
        · exact inStep_done _
        · refine inStep_ask id fun identity identity' h => ?_
          exact inStep_orFail (fun _ _ h => h) h fun identity =>
            s.inStep_withPrincipal identity s.inStep_beginSession

theorem inStep_refresh (r : Request) : InStep T (s.refresh r) (s.refresh r) := by
  unfold refresh
  cases r.json?.bind SecretForm.ofJson? with
  | none => exact inStep_done _
  | some form =>
    refine inStep_askSame id (fun _ _ => id) fun now => ?_
    refine inStep_askSame id (fun _ _ => id) fun next => ?_
    refine inStep_askSame id (fun _ _ => id) fun id' => ?_
    refine inStep_stores (inStep_rotate form.secret next id' now) fun x x' hx => ?_
    exact inStep_orFail (fun _ _ h => h.toAuthError) hx fun pair =>
      s.inStep_withAccessToken pair.2 fun access => inStep_done _

theorem inStep_logout (r : Request) : InStep T (logout r) (logout r) := by
  unfold logout
  cases r.json?.bind SecretForm.ofJson? with
  | none => exact inStep_done _
  | some form =>
    refine inStep_stores (inStep_revokeSecret form.secret) fun x x' hx => ?_
    exact inStep_orFail (fun _ _ h => h.toAuthError) hx fun _ => inStep_done _

theorem inStep_createOrganization (r : Request) :
    InStep T (createOrganization r) (createOrganization r) := by
  unfold createOrganization
  split
  · exact inStep_done _
  · split
    · exact inStep_done _
    · refine inStep_askSame id (fun _ _ => id) fun new => ?_
      exact inStep_orFail_directory (.createOrganization _ _ _ new) fun _ => inStep_done _

theorem inStep_listMembers (o : OrganizationId) : InStep T (listMembers o) (listMembers o) :=
  inStep_orFail_directory (.listByOrganization o) fun _ => inStep_done _

theorem inStep_memberAnswer {x x' : Except StoreError Principal}
    (h : Matches (StoreError.Retold T noOther) Eq x x') :
    InStep T (memberAnswer x) (memberAnswer x') := by
  cases h with
  | ok h =>
    cases h
    exact inStep_done _
  | @error e e' h =>
    unfold memberAnswer
    cases h with
    | same =>
      cases e with
      | limitReached => exact inStep_done _
      | unavailable | conflict | corrupt | missing => exact inStep_fail (.same _)
    | limitReached => exact inStep_done _
    | conflict h => exact h.elim
    | unavailable h => exact inStep_fail (.transient h)
    | corrupt h => exact inStep_fail (.internal h)
    | missing => exact inStep_fail (.same _)

theorem inStep_addMember (o : OrganizationId) (r : Request) :
    InStep T (addMember o r) (addMember o r) := by
  cases hform : r.json?.bind MemberForm.ofJson? with
  | none =>
    rw [addMember, hform]
    exact inStep_done _
  | some form =>
    cases hcheck : form.check with
    | error e =>
      simp only [addMember, hform, hcheck]
      exact inStep_done _
    | ok =>
      rw [addMember_eq hform hcheck]
      refine inStep_askSame id (fun _ _ => id) fun new => ?_
      exact inStep_stores (inStep_directory _) fun _ _ hx => inStep_memberAnswer hx

theorem inStep_enforce (g : Gate) (principal : Option Principal) (target : Option OrganizationId)
    {inner : Handler Response} (h : InStep T inner inner) :
    InStep T (g.enforce principal target inner) (g.enforce principal target inner) := by
  unfold Gate.enforce
  split
  · exact inStep_done _
  · split
    · exact h
    · exact inStep_done _

theorem inStep_act (r : Request) (target : Option OrganizationId) (principal : Option Principal)
    (a : Action) : InStep T (s.act r target principal a) (s.act r target principal a) := by
  cases a with
  | health => exact inStep_health
  | keys => exact inStep_done _
  | login => exact s.inStep_login
  | callback => exact s.inStep_callback _
  | refresh => exact s.inStep_refresh r
  | logout => exact inStep_logout r
  | createOrganization => exact inStep_enforce _ _ _ (inStep_createOrganization r)
  | listMembers =>
    refine inStep_enforce _ _ _ ?_
    cases target with
    | none => exact inStep_done _
    | some o => exact inStep_listMembers o
  | addMember =>
    refine inStep_enforce _ _ _ ?_
    cases target with
    | none => exact inStep_done _
    | some o => exact inStep_addMember o r
  | whoami => cases principal <;> exact inStep_done _

theorem inStep_authenticated (header : Option String) {inner : Principal → Handler Response}
    (h : ∀ p, InStep T (inner p) (inner p)) :
    InStep T (authenticated s.signer header inner) (authenticated s.signer header inner) := by
  refine inStep_askSame id (fun _ _ => id) fun now => ?_
  refine inStep_stores (inStep_authenticate s.signer header now) fun x x' hx => ?_
  cases hx with
  | ok hp =>
    cases hp
    exact h _
  | error he => exact inStep_fail he

theorem inStep_organizationScope (path : String) {inner : Option OrganizationId → Handler Response}
    (h : ∀ target, InStep T (inner target) (inner target)) :
    InStep T (organizationScope path inner) (organizationScope path inner) := by
  unfold organizationScope
  split
  · exact h none
  · split
    · exact h _
    · exact inStep_done _

theorem inStep_behindGates (route : Route) (r : Request)
    {inner : Option OrganizationId → Option Principal → Handler Response}
    (h : ∀ target principal, InStep T (inner target principal) (inner target principal)) :
    InStep T (s.behindGates route r inner) (s.behindGates route r inner) := by
  have hscoped : InStep T
      (organizationScope r.target.path fun target =>
        authenticated s.signer (r.header? "authorization") fun p => inner target (some p))
      (organizationScope r.target.path fun target =>
        authenticated s.signer (r.header? "authorization") fun p => inner target (some p)) :=
    inStep_organizationScope _ fun target => s.inStep_authenticated _ fun p => h target (some p)
  cases route with
  | organizations | members => exact hscoped
  | whoami => exact s.inStep_authenticated _ fun p => h none (some p)
  | health | keys | login | callback | refresh | logout => exact h none none

theorem inStep_serve (r : Request) : InStep T (s.serve r) (s.serve r) := by
  unfold serve
  cases Route.ofPath? r.target.path with
  | none => exact inStep_done _
  | some route =>
    dsimp only
    split
    · next action _ =>
      have hact := s.inStep_behindGates (T := T) route r
        fun target principal => s.inStep_act r target principal action
      refine hact.andThen fun response response' h => ?_
      cases h
      exact inStep_done _
    · have hgates := s.inStep_behindGates (T := T) route r
        fun _ _ => inStep_done (Response.bare 405)
      refine hgates.andThen fun response response' h => ?_
      cases h
      exact inStep_done _

end Service

end Api

end TenantAuth
