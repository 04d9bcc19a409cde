-- Who gets to the handlers of the protected requests. What a request must show is said
-- by its headers and its path alone; the gates are proved to ask for just that.

import TenantAuth.Api.World
import TenantAuth.Proofs.Api.Paths
import TenantAuth.Proofs.Authentication
import TenantAuth.Proofs.Authorization

namespace TenantAuth.Api

open TenantAuth.Http

/-- A request that is not for everybody. -/
inductive Endpoint where
  | createOrganization
  | listMembers (organization : String)
  | addMember (organization : String)
  | whoami

namespace Endpoint

def method : Endpoint → Method
  | createOrganization | addMember _ => .post
  | listMembers _ | whoami => .get

/-- What the path says of the organization. -/
def segment? : Endpoint → Option String
  | listMembers id | addMember id => some id
  | createOrganization | whoami => none

def path : Endpoint → String
  | createOrganization => "/organizations"
  | listMembers id | addMember id => "/organizations/" ++ id ++ "/users"
  | whoami => "/whoami"

def action : Endpoint → Action
  | createOrganization => .createOrganization
  | listMembers _ => .listMembers
  | addMember _ => .addMember
  | whoami => .whoami

/-- The organization that the path names, if it should name one; nothing at all where it
should and does not. -/
def target? : Endpoint → Option (Option OrganizationId)
  | listMembers id | addMember id => (OrganizationId.ofText? id).map some
  | createOrganization | whoami => some none

def permission? : Endpoint → Option Permission
  | createOrganization => some .createOrganization
  | listMembers _ => some .readOrganization
  | addMember _ => some .inviteUser
  | whoami => none

/-- What is done for a principal that is let through. -/
def handler (e : Endpoint) (s : Service) (r : Request) (p : Principal) : Handler Response :=
  match e with
  | createOrganization => Service.createOrganization r
  | listMembers _ => Service.listMembers p.organization
  | addMember _ => Service.addMember p.organization r
  | whoami => s.whoami p

/-- The request is of this kind. A segment of a path holds no slash. -/
def Takes (e : Endpoint) (r : Request) : Prop :=
  r.method = e.method ∧ r.target.path = e.path ∧ ∀ id, e.segment? = some id → '/' ∉ id.toList

/-- The path does not name an organization where it should. -/
def Malformed (e : Endpoint) : Prop := ∃ id, e.segment? = some id ∧ OrganizationId.ofText? id = none

theorem malformed_iff (e : Endpoint) : e.Malformed ↔ e.target? = none := by
  cases e <;> simp [Malformed, segment?, target?]

/-- A principal may be let through: it holds the permission, and it is of the
organization that the path names. -/
def Permits (e : Endpoint) (s : Service) (p : Principal) : Prop :=
  (∀ q, e.permission? = some q → q ∈ s.roles.permissionsHeld p) ∧
  ∀ id, e.segment? = some id → OrganizationId.ofText? id = some p.organization

theorem not_malformed_of_permits {e : Endpoint} {s : Service} {p : Principal}
    (h : e.Permits s p) : ¬ e.Malformed := by
  rintro ⟨id, hsegment, hnone⟩
  cases hnone.symm.trans (h.2 id hsegment)

end Endpoint

/-- A request shows in its header a token that is accepted when it is looked at, and the
directory knows the user of the token as this principal, in the organization of the token. -/
def Bears (s : Service) (supply : Supply) (w : World) (r : Request) (p : Principal) : Prop :=
  ∃ header token c, r.header? "authorization" = some header ∧ bearerToken? header = some token ∧
    s.signer.verify token (supply.clock w.calls) = .ok c ∧
    w.memory.directory.users.find? c.user = some p ∧ p.organization = c.organization

/-- Some calls later, with nothing else changed. -/
def World.spent (w : World) (n : Nat) : World := { w with calls := w.calls + n }

/-! ## Authentication -/

section

variable {s : Service} {supply : Supply} {w : World} {r : Request}

theorem bears_iff {p : Principal} :
    Bears s supply w r p ↔
      ∃ c, Authentication.Shows s.signer (r.header? "authorization") (supply.clock w.calls) c ∧
        w.memory.directory.users.find? c.user = some p ∧ p.organization = c.organization := by
  simp only [Bears, Authentication.shows_iff, Option.bind_eq_some_iff]
  constructor
  · rintro ⟨header, token, c, hheader, htoken, hverify, hknown⟩
    exact ⟨c, ⟨token, ⟨header, hheader, htoken⟩, hverify⟩, hknown⟩
  · rintro ⟨c, ⟨token, ⟨header, hheader, htoken⟩, hverify⟩, hknown⟩
    exact ⟨header, token, c, hheader, htoken, hverify, hknown⟩

/-- What comes of a verdict on who sends a request. -/
def letIn (inner : Principal → Handler Response) : Except AuthError Principal → Handler Response
  | .ok p => inner p
  | .error e => Handler.fail e

/-- The directory is asked for the user of the claims. -/
theorem run_principalOf (c : Claims) (next : Except AuthError Principal → Handler Response)
    (w : World) :
    ((Handler.stores (Authentication.principalOf c)).andThen next).run (World.answer supply) w =
      (next (Authentication.verdictOn c (.ok (w.memory.directory.users.find? c.user)))).run
        (World.answer supply) (w.spent 1) := by
  rw [Authentication.principalOf_eq]
  rfl

theorem run_authenticated (header : Option String) (inner : Principal → Handler Response) :
    (authenticated s.signer header inner).run (World.answer supply) w =
      ((Handler.stores (Authentication.authenticate s.signer header (supply.clock w.calls))).andThen
        (letIn inner)).run (World.answer supply) (w.spent 1) := rfl

/-- Whoever bears a token is let in, after the clock and the directory were asked. -/
theorem run_authenticated_of_bears {p : Principal} (h : Bears s supply w r p)
    (inner : Principal → Handler Response) :
    (authenticated s.signer (r.header? "authorization") inner).run (World.answer supply) w =
      (inner p).run (World.answer supply) (w.spent 2) := by
  obtain ⟨c, hshows, hfind, horganization⟩ := bears_iff.mp h
  have hfind' : (w.spent 1).memory.directory.users.find? c.user = some p := hfind
  have hverdict := Authentication.verdictOn_eq_ok_iff.mpr ⟨rfl, horganization⟩
  rw [run_authenticated, Authentication.authenticate_of_shows hshows, run_principalOf, hfind',
    hverdict]
  rfl

/-- Nobody else is, and all get the same answer. -/
theorem run_authenticated_of_not_bears (h : ∀ p, ¬ Bears s supply w r p)
    (inner : Principal → Handler Response) :
    ∃ n, (authenticated s.signer (r.header? "authorization") inner).run (World.answer supply) w =
      (some Answer.unauthorized, w.spent n) := by
  rw [run_authenticated]
  by_cases hshows : ∃ c, Authentication.Shows s.signer (r.header? "authorization")
    (supply.clock w.calls) c
  · obtain ⟨c, hshows⟩ := hshows
    have hverdict : Authentication.verdictOn c (.ok (w.memory.directory.users.find? c.user)) =
        .error .unauthenticated := by
      rw [Authentication.verdictOn_eq_unauthenticated_iff]
      cases hfind : w.memory.directory.users.find? c.user with
      | none => exact Or.inl rfl
      | some p =>
        refine Or.inr ⟨p, rfl, fun horganization => h p ?_⟩
        exact bears_iff.mpr ⟨c, hshows, hfind, horganization⟩
    refine ⟨2, ?_⟩
    rw [Authentication.authenticate_of_shows hshows, run_principalOf]
    change (letIn inner (Authentication.verdictOn c
      (.ok (w.memory.directory.users.find? c.user)))).run _ _ = _
    rw [hverdict]
    rfl
  · rw [Authentication.authenticate_of_not_shows (not_exists.mp hshows)]
    exact ⟨1, rfl⟩

end

/-! ## Gates -/

/-- A gate lets through who meets its requirement, and who is of the organization that it
compares with, if it does. Where it should and is given none, that is nobody. -/
theorem check_eq_ok_iff {g : Gate} {p : Principal} {target : Option OrganizationId} :
    g.check p target = .ok () ↔
      g.requirement.MetBy (g.roles.entitlement p) ∧
        (g.sameOrganization = true → target = some p.organization) := by
  unfold Gate.check
  by_cases hscoped : g.sameOrganization = true
  · rw [if_pos hscoped]
    cases target with
    | none => simp [hscoped]
    | some o => simp [hscoped, RoleTable.authorize_eq_ok_iff]
  · rw [if_neg hscoped]
    simp [hscoped, RoleTable.authorize_eq_ok_iff]

theorem mem_permissionsHeld {t : RoleTable} {p : Principal} {q : Permission} :
    q ∈ t.permissionsHeld p ↔ q ∈ t.entitlement p := (t.lists_permissionsHeld p).mem q

section

variable (s : Service) (p : Principal) (q : Permission)

theorem check_open (target : Option OrganizationId) :
    (s.gate [q] false).check p target = .ok () ↔ q ∈ s.roles.permissionsHeld p := by
  rw [check_eq_ok_iff, mem_permissionsHeld]
  simp [Service.gate, Requirement.MetBy]

theorem check_scoped (o : OrganizationId) :
    (s.gate [q] true).check p (some o) = .ok () ↔
      q ∈ s.roles.permissionsHeld p ∧ o = p.organization := by
  rw [check_eq_ok_iff, mem_permissionsHeld]
  simp [Service.gate, Requirement.MetBy]

end

theorem enforce_of_ok {g : Gate} {p : Principal} {target : Option OrganizationId}
    (h : g.check p target = .ok ()) (inner : Handler Response) :
    g.enforce (some p) target inner = inner := by
  simp only [Gate.enforce, h]

theorem enforce_of_ne {g : Gate} {p : Principal} {target : Option OrganizationId}
    (h : g.check p target ≠ .ok ()) (inner : Handler Response) :
    g.enforce (some p) target inner = pure Answer.forbidden := by
  unfold Gate.enforce
  cases hcheck : g.check p target with
  | ok => exact absurd hcheck h
  | error e => simp only [hcheck]

section

variable {e : Endpoint} {s : Service} {supply : Supply} {w : World} {r : Request} {p : Principal}
  {target : Option OrganizationId}

theorem act_of_permits (htarget : e.target? = some target) (h : e.Permits s p) :
    s.act r target (some p) e.action = e.handler s r p := by
  obtain ⟨hpermission, horganization⟩ := h
  cases e with
  | createOrganization =>
    exact enforce_of_ok ((check_open s p .createOrganization target).mpr (hpermission _ rfl)) _
  | listMembers id =>
    have hid := horganization id rfl
    simp only [Endpoint.target?, hid, Option.map_some, Option.some.injEq] at htarget
    rw [← htarget]
    exact enforce_of_ok ((check_scoped s p .readOrganization _).mpr ⟨hpermission _ rfl, rfl⟩) _
  | addMember id =>
    have hid := horganization id rfl
    simp only [Endpoint.target?, hid, Option.map_some, Option.some.injEq] at htarget
    rw [← htarget]
    exact enforce_of_ok ((check_scoped s p .inviteUser _).mpr ⟨hpermission _ rfl, rfl⟩) _
  | whoami => rfl

theorem act_of_not_permits (htarget : e.target? = some target) (h : ¬ e.Permits s p) :
    s.act r target (some p) e.action = pure Answer.forbidden := by
  cases e with
  | createOrganization =>
    apply enforce_of_ne
    intro hcheck
    have hheld := (check_open s p .createOrganization target).mp hcheck
    exact h ⟨by simpa [Endpoint.permission?] using hheld, by simp [Endpoint.segment?]⟩
  | listMembers id =>
    obtain ⟨o, ho, rfl⟩ := Option.map_eq_some_iff.mp htarget
    apply enforce_of_ne
    intro hcheck
    obtain ⟨hheld, rfl⟩ := (check_scoped s p .readOrganization o).mp hcheck
    exact h ⟨by simpa [Endpoint.permission?] using hheld, by simpa [Endpoint.segment?] using ho⟩
  | addMember id =>
    obtain ⟨o, ho, rfl⟩ := Option.map_eq_some_iff.mp htarget
    apply enforce_of_ne
    intro hcheck
    obtain ⟨hheld, rfl⟩ := (check_scoped s p .inviteUser o).mp hcheck
    exact h ⟨by simpa [Endpoint.permission?] using hheld, by simpa [Endpoint.segment?] using ho⟩
  | whoami => exact absurd ⟨by simp [Endpoint.permission?], by simp [Endpoint.segment?]⟩ h

/-! ## What stands in front of the handlers -/

/-- The answer to a path that names no organization where it should. -/
def invalidOrganization : Response :=
  Answer.problem 400 "invalid_organization_id" "invalid organization ID format"

/-- Neither an empty segment nor the one that is read in its place is an id. -/
theorem organizationScope_members {path id : String} (h : Route.ofPath? path = some (.members id))
    (inner : Option OrganizationId → Handler Response) :
    organizationScope path inner =
      match OrganizationId.ofText? id with
      | none => pure invalidOrganization
      | some o => inner (some o) := by
  unfold organizationScope
  rw [organizationSegment?_members h]
  by_cases hempty : id = ""
  · subst hempty
    have hempty : OrganizationId.ofText? "" = none := by decide
    have husers : OrganizationId.ofText? "users" = none := by decide
    simp only [if_pos, husers, hempty]
    rfl
  · rw [if_neg hempty]
    cases hid : OrganizationId.ofText? id with
    | none => simp only [hid, invalidOrganization]
    | some o => simp only [hid]

theorem behindGates_members {id : String} (h : Route.ofPath? r.target.path = some (.members id))
    (inner : Option OrganizationId → Option Principal → Handler Response) :
    s.behindGates (.members id) r inner =
      match OrganizationId.ofText? id with
      | none => pure invalidOrganization
      | some o => authenticated s.signer (r.header? "authorization") fun p =>
          inner (some o) (some p) := by
  unfold Service.behindGates
  exact organizationScope_members h _

/-- An answer is passed on as it is, when the body is asked for too. -/
theorem andThen_whole {m : Method} (h : m ≠ .head) (inner : Handler Response) :
    (do
      let response ← inner
      pure (if m = .head then response.withoutBody else response) : Handler Response) = inner := by
  simp only [if_neg h]
  exact Program.andThen_done inner

/-- Path first, then credentials, then the gate. -/
theorem serve_eq (h : e.Takes r) :
    s.serve r =
      match e.target? with
      | none => pure invalidOrganization
      | some target => authenticated s.signer (r.header? "authorization") fun p =>
          s.act r target (some p) e.action := by
  obtain ⟨hmethod, hpath, hid⟩ := h
  have hhead : r.method ≠ .head := by
    rw [hmethod]
    cases e <;> simp [Endpoint.method]
  have hmembers : ∀ id, '/' ∉ id.toList → r.target.path = "/organizations/" ++ id ++ "/users" →
      ∀ action, (Route.members id).action? r.method = some action →
      s.serve r = match (OrganizationId.ofText? id).map some with
        | none => pure invalidOrganization
        | some target => authenticated s.signer (r.header? "authorization") fun p =>
            s.act r target (some p) action := by
    intro id hslash hpath action haction
    have hroute : Route.ofPath? r.target.path = some (.members id) :=
      ofPath?_eq_members_iff.mpr ⟨hpath, hslash⟩
    unfold Service.serve
    rw [hroute]
    simp only [haction, andThen_whole hhead]
    rw [behindGates_members hroute]
    cases OrganizationId.ofText? id <;> rfl
  cases e with
  | createOrganization =>
    have hroute : Route.ofPath? r.target.path = some .organizations := by
      rw [hpath]
      decide
    have hsegment : organizationSegment? r.target.path = none := by
      rw [hpath]
      decide
    have haction : Route.organizations.action? r.method = some .createOrganization := by
      rw [hmethod]
      rfl
    unfold Service.serve
    rw [hroute]
    simp only [haction, andThen_whole hhead, Service.behindGates, organizationScope, hsegment]
    rfl
  | listMembers id => exact hmembers id (hid id rfl) hpath _ (by rw [hmethod]; rfl)
  | addMember id => exact hmembers id (hid id rfl) hpath _ (by rw [hmethod]; rfl)
  | whoami =>
    have hroute : Route.ofPath? r.target.path = some .whoami := by
      rw [hpath]
      decide
    have haction : Route.whoami.action? r.method = some .whoami := by
      rw [hmethod]
      rfl
    unfold Service.serve
    rw [hroute]
    simp only [haction, andThen_whole hhead, Service.behindGates]
    rfl

/-- Whoever may be let through gets to the handler, after the clock and the directory were
asked. -/
theorem run_serve_of_permits (he : e.Takes r) (hbears : Bears s supply w r p)
    (hpermits : e.Permits s p) :
    (s.serve r).run (World.answer supply) w =
      (e.handler s r p).run (World.answer supply) (w.spent 2) := by
  rw [serve_eq he]
  cases htarget : e.target? with
  | none => exact absurd (e.malformed_iff.mpr htarget) (Endpoint.not_malformed_of_permits hpermits)
  | some target =>
    simp only
    rw [run_authenticated_of_bears hbears, act_of_permits htarget hpermits]

/-- How far a request comes, and what it is told if it does not come to the handler. -/
inductive Passage (e : Endpoint) (s : Service) (supply : Supply) (w : World) (r : Request) :
    Option Response × World → Prop
  | malformed (h : e.Malformed) : Passage e s supply w r (some invalidOrganization, w)
  | unknown (n : Nat) (hpath : ¬ e.Malformed) (h : ∀ p, ¬ Bears s supply w r p) :
      Passage e s supply w r (some Answer.unauthorized, w.spent n)
  | denied {p : Principal} (hpath : ¬ e.Malformed) (hbears : Bears s supply w r p)
      (h : ¬ e.Permits s p) : Passage e s supply w r (some Answer.forbidden, w.spent 2)
  | served {p : Principal} (hpath : ¬ e.Malformed) (hbears : Bears s supply w r p)
      (h : e.Permits s p) :
      Passage e s supply w r ((e.handler s r p).run (World.answer supply) (w.spent 2))

theorem passage (h : e.Takes r) (supply : Supply) (w : World) :
    Passage e s supply w r ((s.serve r).run (World.answer supply) w) := by
  by_cases hserved : ∃ p, Bears s supply w r p ∧ e.Permits s p
  · obtain ⟨p, hbears, hpermits⟩ := hserved
    rw [run_serve_of_permits h hbears hpermits]
    exact .served (Endpoint.not_malformed_of_permits hpermits) hbears hpermits
  rw [serve_eq h]
  cases htarget : e.target? with
  | none => exact .malformed (e.malformed_iff.mpr htarget)
  | some target =>
    have hpath : ¬ e.Malformed := by
      rw [e.malformed_iff, htarget]
      simp
    simp only
    by_cases hbears : ∃ p, Bears s supply w r p
    · obtain ⟨p, hbears⟩ := hbears
      have hdenied : ¬ e.Permits s p := fun hpermits => hserved ⟨p, hbears, hpermits⟩
      rw [run_authenticated_of_bears hbears, act_of_not_permits htarget hdenied]
      exact .denied hpath hbears hdenied
    · have hnobody := not_exists.mp hbears
      obtain ⟨n, hrun⟩ := run_authenticated_of_not_bears hnobody fun p =>
        s.act r target (some p) e.action
      rw [hrun]
      exact .unknown n hpath hnobody

end

end TenantAuth.Api
