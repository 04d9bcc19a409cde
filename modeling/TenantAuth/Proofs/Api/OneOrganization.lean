-- A request about the members of an organization is checked against the organization that
-- its path names, and done for that one. The path is read twice; where the readers differ,
-- neither finds an id.

import TenantAuth.Proofs.Api.Effects

namespace TenantAuth.Api

open TenantAuth.Http

/-! ## What the readers of a path find -/

/-- What the scope and the router make of a path. -/
structure ReadAlike (path : String) : Prop where
  named_iff : ∀ segment, organizationSegment? path = some segment ↔ NamesOrganization path segment
  routed_iff : ∀ id, Route.ofPath? path = some (.members id) ↔
    path = "/organizations/" ++ id ++ "/users" ∧ '/' ∉ id.toList
  same : ∀ id, id ≠ "" → Route.ofPath? path = some (.members id) →
    organizationSegment? path = some id
  gap : Route.ofPath? path = some (.members "") → organizationSegment? path = some "users"
  collection : Route.ofPath? path = some .organizations → organizationSegment? path = none

theorem readAlike (path : String) : ReadAlike path where
  named_iff _ := organizationSegment?_eq_some_iff
  routed_iff _ := ofPath?_eq_members_iff
  same id hid hroute := by rw [organizationSegment?_members hroute, if_neg hid]
  gap hroute := by rw [organizationSegment?_members hroute, if_pos rfl]
  collection hroute := by
    rw [ofPath?_eq_organizations_iff.mp hroute]
    decide

/-- With no id in place of one, the scope takes the next segment. -/
theorem the_scope_skips_an_empty_id :
    Route.ofPath? "/organizations//users" = some (.members "") ∧
      organizationSegment? "/organizations//users" = some "users" ∧
      ¬ ∀ path id, Route.ofPath? path = some (.members id) → organizationSegment? path = some id := by
  have hroute : Route.ofPath? "/organizations//users" = some (.members "") := by decide
  refine ⟨hroute, (readAlike _).gap hroute, fun hsame => ?_⟩
  have husers := (hsame _ _ hroute).symm.trans ((readAlike _).gap hroute)
  exact absurd husers (by decide)

/-- What becomes of a request with this path, whatever is behind the scope. -/
structure Scopes (path : String) : Prop where
  without : (∀ segment, ¬ NamesOrganization path segment) →
    ∀ inner, organizationScope path inner = inner none
  within : ∀ segment o, NamesOrganization path segment → OrganizationId.ofText? segment = some o →
    ∀ inner, organizationScope path inner = inner (some o)
  refused : ∀ segment, NamesOrganization path segment → OrganizationId.ofText? segment = none →
    ∀ inner, organizationScope path inner = pure invalidOrganization

theorem scopes (path : String) : Scopes path where
  without hunnamed inner := by
    have hsegment : organizationSegment? path = none := by
      rw [Option.eq_none_iff_forall_ne_some]
      exact fun segment h => hunnamed segment (organizationSegment?_eq_some_iff.mp h)
    simp only [organizationScope, hsegment]
  within segment o hnamed ho inner := by
    simp only [organizationScope, organizationSegment?_eq_some_iff.mpr hnamed, ho]
  refused segment hnamed hid inner := by
    simp only [organizationScope, organizationSegment?_eq_some_iff.mpr hnamed, hid,
      invalidOrganization]

/-! ## Requests about members -/

/-- A text that is no id is answered at once. Else `inner` is done for the organization with
this id and whoever sends the request. -/
def Service.atOrganization (s : Service) (r : Request) (id : String)
    (inner : OrganizationId → Principal → Handler Response) : Handler Response :=
  match OrganizationId.ofText? id with
  | none => pure invalidOrganization
  | some o => authenticated s.signer (r.header? "authorization") (inner o)

section

variable {s : Service} {r : Request} {id : String}

theorem serve_members (h : Route.ofPath? r.target.path = some (.members id)) (action : Action)
    (haction : (Route.members id).action? r.method = some action) :
    s.serve r = (do
      let response ← s.atOrganization r id fun o p => s.act r (some o) (some p) action
      pure (if r.method = .head then response.withoutBody else response)) := by
  unfold Service.serve
  rw [h]
  simp only [haction]
  rw [behindGates_members h]
  rfl

theorem serve_members_of_no_action (h : Route.ofPath? r.target.path = some (.members id))
    (haction : (Route.members id).action? r.method = none) :
    s.serve r = (do
      let response ← s.atOrganization r id fun _ _ => pure (.bare 405)
      pure (response.withHeader "allow" "GET,HEAD,POST")) := by
  unfold Service.serve
  rw [h]
  simp only [haction]
  rw [behindGates_members h]
  rfl

/-- The request is about the organization with this id: its gate compares with it, and the
members of it are listed or added to. -/
structure KeepsTo (s : Service) (r : Request) (id : String) : Prop where
  read : r.method = .get → s.serve r = s.atOrganization r id fun o p =>
    s.readGate.enforce (some p) (some o) (Service.listMembers o)
  peek : r.method = .head → s.serve r = do
    let response ← s.atOrganization r id fun o p =>
      s.readGate.enforce (some p) (some o) (Service.listMembers o)
    pure response.withoutBody
  write : r.method = .post → s.serve r = s.atOrganization r id fun o p =>
    s.inviteGate.enforce (some p) (some o) (Service.addMember o r)
  other : ∀ name, r.method = .other name → s.serve r = do
    let response ← s.atOrganization r id fun _ _ => pure (.bare 405)
    pure (response.withHeader "allow" "GET,HEAD,POST")

theorem keepsTo (h : Route.ofPath? r.target.path = some (.members id)) : KeepsTo s r id where
  read hmethod := by
    rw [serve_members h .listMembers (by simp [hmethod, Route.action?, Route.onGet?]),
      andThen_whole (by simp [hmethod])]
    rfl
  peek hmethod := by
    rw [serve_members h .listMembers (by simp [hmethod, Route.action?, Route.onGet?])]
    simp only [if_pos hmethod]
    rfl
  write hmethod := by
    rw [serve_members h .addMember (by simp [hmethod, Route.action?, Route.onPost?]),
      andThen_whole (by simp [hmethod])]
    rfl
  other name hmethod := serve_members_of_no_action h (by simp [hmethod, Route.action?])

end

/-- The scope reads off any path the first segment behind `organizations`, and lets a request
through with that id, without one, or not at all. Where the router finds the members of an
organization, that is the organization which the gate compares with and which the request is
about: both are the id in the path, and without an id there the request is answered at once. -/
theorem requests_keep_to_the_organization_of_their_path (path : String) :
    ReadAlike path ∧ Scopes path ∧
      ∀ (s : Service) (r : Request) (id : String), r.target.path = path →
        Route.ofPath? path = some (.members id) → KeepsTo s r id := by
  refine ⟨readAlike path, scopes path, ?_⟩
  rintro s r id rfl hroute
  exact keepsTo hroute

/-- An invitation is checked against the organization in its path, and adds to that one. A
path with a gap in place of the id is answered at once. -/
theorem an_invitation_keeps_to_the_organization_of_its_path :
    Route.ofPath? homesMembers.path = some (.members home.toText) ∧
      organizationSegment? homesMembers.path = some home.toText ∧
      (∀ inner, organizationScope homesMembers.path inner = inner (some home)) ∧
      (∀ token, plainService.serve (invitation token) =
        plainService.atOrganization (invitation token) home.toText fun o p =>
          plainService.inviteGate.enforce (some p) (some o)
            (Service.addMember o (invitation token))) ∧
      ∀ inner, organizationScope "/organizations//users" inner = pure invalidOrganization := by
  have hroute : Route.ofPath? homesMembers.path = some (.members home.toText) := by decide +kernel
  have hgap : Route.ofPath? "/organizations//users" = some (.members "") := by decide
  obtain ⟨hread, hscopes, hkeeps⟩ :=
    requests_keep_to_the_organization_of_their_path homesMembers.path
  obtain ⟨hread', hscopes', -⟩ :=
    requests_keep_to_the_organization_of_their_path "/organizations//users"
  have hsegment := hread.same home.toText (by decide +kernel) hroute
  refine ⟨hroute, hsegment, fun inner => ?_, fun token => ?_, fun inner => ?_⟩
  · apply hscopes.within _ home ((hread.named_iff _).mp hsegment)
    decide +kernel
  · exact (hkeeps plainService (invitation token) _ rfl hroute).write rfl
  · apply hscopes'.refused _ ((hread'.named_iff _).mp (hread'.gap hgap))
    decide

end TenantAuth.Api
