-- The two legs of a login, each as the calls that it makes. A callback takes back the state
-- that it presents before anything else is done, and asks the identity provider at most once.

import TenantAuth.Proofs.Api.Gates
import TenantAuth.Proofs.Api.Surroundings

namespace TenantAuth.Api

open TenantAuth.Http

/-! ## The requests -/

/-- The requests that a login is made of. -/
inductive Leg where
  | login
  | callback

namespace Leg

def path : Leg → String
  | login => "/auth/login/google"
  | callback => "/auth/callback/google"

def route : Leg → Route
  | login => .login
  | callback => .callback

def action : Leg → Action
  | login => .login
  | callback => .callback

def Takes (l : Leg) (r : Request) : Prop := r.method = .get ∧ r.target.path = l.path

instance (l : Leg) (r : Request) : Decidable (l.Takes r) := inferInstanceAs (Decidable (_ ∧ _))

theorem takes_unique {l l' : Leg} {r : Request} (h : l.Takes r) (h' : l'.Takes r) : l = l' := by
  have hpath : l.path = l'.path := h.2.symm.trans h'.2
  cases l <;> cases l' <;> first | rfl | simp [path] at hpath

end Leg

/-- The request is one leg of a login. -/
def OfLogin (r : Request) : Prop := ∃ l : Leg, l.Takes r

/-- The fields of a query in which neither of those in use stands twice. -/
def callbackFields? (r : Request) : Option (List (String × String)) :=
  let fields := Query.fields (r.target.query.getD "")
  match Query.duplicate? ["state", "code"] fields with
  | some _ => none
  | none => some fields

def state? (r : Request) : Option String := (callbackFields? r).bind fun fs => fs.lookup "state"

def code? (r : Request) : Option String := (callbackFields? r).bind fun fs => fs.lookup "code"

/-- The request is a callback whose query can be read and carries the state. -/
def Presents (r : Request) (state : String) : Prop := Leg.callback.Takes r ∧ state? r = some state

def invalidState : Response := Answer.problem 400 "invalid_state" "invalid or expired state"

namespace Service

variable (s : Service) {r : Request}

/-- Nothing stands in front of a login. -/
theorem serve_leg {l : Leg} (h : l.Takes r) : s.serve r = s.act r none none l.action := by
  obtain ⟨hmethod, hpath⟩ := h
  have hroute : Route.ofPath? r.target.path = some l.route := by
    rw [hpath]
    cases l <;> decide
  have haction : l.route.action? r.method = some l.action := by
    rw [hmethod]
    cases l <;> rfl
  have hhead : r.method ≠ .head := by simp [hmethod]
  unfold Service.serve
  rw [hroute]
  simp only [haction, andThen_whole hhead]
  cases l <;> rfl

theorem serve_login (h : Leg.login.Takes r) : s.serve r = s.login := s.serve_leg h

theorem serve_callback (h : Leg.callback.Takes r) : s.serve r = s.callback r.target.query :=
  s.serve_leg h

theorem login_of_no_provider (h : s.provider = none) : s.login = .done noProvider := by
  simp only [Service.login, h]
  rfl

theorem login_of_provider {provider : Provider} (h : s.provider = some provider) :
    s.login = .call .newLoginState fun state => .call .clock fun now =>
      .call (.fileState state s.stateLifetime now) fun _ =>
        .done (.redirect (provider.authorizationUrl state)) := by
  simp only [Service.login, h]
  rfl

/-- What comes of the answer of the identity provider. -/
def identified (identity : Except AuthError Identity) : Handler Response :=
  Handler.orFail id identity fun identity => s.withPrincipal identity s.beginSession

/-- What is done with a code once the state is used up. -/
def redeem (code : Option String) : Handler Response :=
  match code, s.provider with
  | none, _ => pure (Answer.problem 400 "missing_code" "missing code parameter")
  | some _, none => pure noProvider
  | some code, some _ => .call (.exchange code) s.identified

theorem callback_of_state {state : String} (h : state? r = some state) :
    s.callback r.target.query =
      .call .clock fun now => .call (.consumeState state now) fun worked =>
        if worked then s.redeem (code? r) else .done invalidState := by
  obtain ⟨fields, hfields, hstate⟩ := Option.bind_eq_some_iff.mp h
  have hcode : code? r = fields.lookup "code" := by rw [code?, hfields, Option.bind_some]
  simp only [callbackFields?] at hfields
  split at hfields
  · cases hfields
  · rename_i hduplicate
    cases hfields
    simp only [Service.callback, hduplicate, hstate, hcode]
    refine congrArg (Program.call _) (funext fun now => ?_)
    refine congrArg (Program.call _) (funext fun worked => ?_)
    unfold redeem
    cases worked with
    | false => rfl
    | true =>
      cases (Query.fields (r.target.query.getD "")).lookup "code" with
      | none => rfl
      | some code => cases s.provider <;> rfl

theorem callback_of_no_state (h : state? r = none) :
    ∃ response, s.callback r.target.query = .done response ∧ response.status = 400 := by
  simp only [state?, callbackFields?] at h
  split at h
  · rename_i d hduplicate
    exact ⟨.text 400 d.message, by simp only [Service.callback, hduplicate]; rfl, rfl⟩
  · rename_i hduplicate
    rw [Option.bind_some] at h
    exact ⟨_, by simp only [Service.callback, hduplicate, h]; rfl, rfl⟩

end Service

/-! ## What comes after the state -/

/-- The call touches the states of logins, or asks the identity provider. -/
def Call.Entry {B : Type} : Call B → Prop
  | .fileState .. | .consumeState .. | .exchange _ => True
  | _ => False

theorem Call.entry_of_ofStates {B : Type} {c : Call B} (h : c.OfStates) : c.Entry := by
  cases c <;> trivial

theorem Call.exchanges_of_not_entry {B : Type} {c : Call B} (h : ¬ c.Entry) :
    c.exchanges = false := by
  cases c <;> first | rfl | exact absurd trivial h

theorem avoids_ask {c : Call BackendCall} (h : ¬ c.Entry) : (Handler.ask c).Avoids Call.Entry :=
  ⟨h, fun _ => trivial⟩

theorem avoids_stores {α : Type} (p : BackendProgram α) : (Handler.stores p).Avoids Call.Entry := by
  induction p with
  | done a => trivial
  | broken => trivial
  | call b next ih => exact ⟨id, ih⟩

theorem avoids_fail (e : AuthError) : (Handler.fail e).Avoids Call.Entry := by
  unfold Handler.fail
  cases Answer.event? e with
  | none => trivial
  | some event => exact avoids_ask id

theorem avoids_orFail {ε α : Type} (toAuthError : ε → AuthError) (reply : Except ε α)
    {next : α → Handler Response} (h : ∀ a, (next a).Avoids Call.Entry) :
    (Handler.orFail toAuthError reply next).Avoids Call.Entry := by
  cases reply with
  | error e => exact avoids_fail (toAuthError e)
  | ok a => exact h a

namespace Service

variable (s : Service)

theorem avoids_withAccessToken (p : Principal) {next : String → Handler Response}
    (h : ∀ token, (next token).Avoids Call.Entry) : (s.withAccessToken p next).Avoids Call.Entry := by
  refine Program.avoids_andThen (avoids_ask id) fun now => ?_
  cases s.signer.issue? p now with
  | none => trivial
  | some token => exact avoids_orFail _ token h

theorem avoids_beginSession (p : Principal) : (s.beginSession p).Avoids Call.Entry := by
  refine avoids_withAccessToken s p fun access => ?_
  refine Program.avoids_andThen (avoids_ask id) fun now => ?_
  refine Program.avoids_andThen (avoids_ask id) fun secret => ?_
  refine Program.avoids_andThen (avoids_ask id) fun id => ?_
  refine Program.avoids_andThen (avoids_stores _) fun created => ?_
  cases created with
  | ok refresh => trivial
  | error e => exact Program.avoids_andThen (avoids_ask not_false) fun _ => avoids_fail _

theorem avoids_withPrincipal (identity : Identity) {next : Principal → Handler Response}
    (h : ∀ p, (next p).Avoids Call.Entry) : (s.withPrincipal identity next).Avoids Call.Entry := by
  refine Program.avoids_andThen (avoids_stores _) fun known => ?_
  refine avoids_orFail _ known fun known => ?_
  cases known with
  | some p => exact h p
  | none =>
    by_cases hprovisions : s.provisionsOwners = true
    · simp only [if_pos hprovisions]
      refine Program.avoids_andThen (avoids_ask id) fun new => ?_
      exact Program.avoids_andThen (avoids_stores _) fun made => avoids_orFail _ made h
    · simp only [if_neg hprovisions]
      exact avoids_fail _

theorem avoids_identified (identity : Except AuthError Identity) :
    (s.identified identity).Avoids Call.Entry :=
  avoids_orFail id identity fun identity => s.avoids_withPrincipal identity s.avoids_beginSession

end Service

end TenantAuth.Api
