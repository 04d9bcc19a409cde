-- Who gets to see which members. The answer to somebody who asks for the members of an
-- organization depends on their own organization alone, whatever else the directory holds.

import TenantAuth.Proofs.Api.Bodies
import TenantAuth.Proofs.Api.Effects
import TenantAuth.Proofs.Directory

namespace TenantAuth.Api

open TenantAuth.Http

/-- The answer that lists the members of an organization. -/
def memberList (o : OrganizationId) (members : List Principal) : Response :=
  .json 200
    (.object
      [("organization_id", .string o.toText), ("users", .array (members.map Service.memberJson))])

theorem showsMembers_memberList (o : OrganizationId) (members : List Principal) :
    ∃ body, memberList o members = .json 200 body ∧ ShowsMembers o members body :=
  ⟨_, rfl, rfl, rfl, _, rfl, forall₂_showsMember members⟩

/-- What a principal is told of the members of the organization that a path names. -/
inductive Told (s : Service) (id : String) (p : Principal) (d : Directory) : Response → Prop
  | malformed (h : (Endpoint.listMembers id).Malformed) : Told s id p d invalidOrganization
  | denied (hpath : ¬ (Endpoint.listMembers id).Malformed)
      (h : ¬ (Endpoint.listMembers id).Permits s p) : Told s id p d Answer.forbidden
  | listed {members : List Principal} (h : (Endpoint.listMembers id).Permits s p)
      (hlists : d.Lists p.organization members) :
      Told s id p d (memberList p.organization members)

section

variable {s : Service} {id : String} {p : Principal} {d d' : Directory} {response response' : Response}

/-- It depends on nothing but the members of the principal's own organization. -/
theorem told_unique (h : Told s id p d response) (h' : Told s id p d' response')
    (hsame : ∀ q, q.organization = p.organization → (q ∈ d.users.values ↔ q ∈ d'.users.values)) :
    response = response' := by
  cases h with
  | malformed hpath =>
    cases h' with
    | malformed => rfl
    | denied hpath' => exact absurd hpath hpath'
    | listed hpermits => exact absurd hpath (Endpoint.not_malformed_of_permits hpermits)
  | denied hpath hdenied =>
    cases h' with
    | malformed hpath' => exact absurd hpath' hpath
    | denied => rfl
    | listed hpermits => exact absurd hpermits hdenied
  | listed hpermits hlists =>
    cases h' with
    | malformed hpath => exact absurd hpath (Endpoint.not_malformed_of_permits hpermits)
    | denied hpath hdenied => exact absurd hpermits hdenied
    | listed hpermits' hlists' => rw [Directory.lists_unique hlists hlists' hsame]

theorem told_of_ok (h : Told s id p d response) (hok : response.status = 200) :
    OrganizationId.ofText? id = some p.organization ∧
      ∃ members body, d.Lists p.organization members ∧ response = .json 200 body ∧
        ShowsMembers p.organization members body := by
  cases h with
  | malformed => cases hok
  | denied => cases hok
  | @listed members hpermits hlists =>
    obtain ⟨body, hbody, hshows⟩ := showsMembers_memberList p.organization members
    exact ⟨hpermits.2 id rfl, members, body, hlists, hbody, hshows⟩

theorem told_ok_iff (h : Told s id p d response) :
    response.status = 200 ↔ (Endpoint.listMembers id).Permits s p := by
  cases h with
  | malformed hpath =>
    exact iff_of_false (by decide) fun hpermits => Endpoint.not_malformed_of_permits hpermits hpath
  | denied hpath hdenied => exact iff_of_false (by decide) hdenied
  | listed hpermits => exact iff_of_true rfl hpermits

/-- Whoever bears a token is told of the members. -/
theorem told_of_bears {r : Request} (hr : (Endpoint.listMembers id).Takes r) {supply : Supply}
    {w : World} (hsound : w.memory.directory.Sound) (hbears : Bears s supply w r p) :
    ∃ response, ((s.serve r).run (World.answer supply) w).1 = some response ∧
      Told s id p w.memory.directory response := by
  have hpassage := passage (s := s) hr supply w
  generalize (s.serve r).run (World.answer supply) w = ran at hpassage ⊢
  cases hpassage with
  | malformed h => exact ⟨_, rfl, .malformed h⟩
  | unknown n hpath h => exact absurd hbears (h p)
  | denied hpath hbears' h =>
    cases bears_unique hbears hbears'
    exact ⟨_, rfl, .denied hpath h⟩
  | served hpath hbears' h =>
    cases bears_unique hbears hbears'
    exact ⟨_, rfl, .listed h (hsound.lists_membersInOrder p.organization)⟩

end

/-- Two directories that agree on one organization answer its members alike when they ask for
the members of any organization. They see a list if they may, which is that of their own. -/
theorem no_tenant_shows_in_the_members_of_another (s : Service) {id : String} {r : Request}
    (hr : (Endpoint.listMembers id).Takes r) {supply supply' : Supply} {w w' : World}
    (hreached : w.memory.directory.Reached) (hreached' : w'.memory.directory.Reached)
    {p : Principal} (hbears : Bears s supply w r p) (hbears' : Bears s supply' w' r p)
    (hsame : ∀ q, q.organization = p.organization →
      (q ∈ w.memory.directory.users.values ↔ q ∈ w'.memory.directory.users.values)) :
    ∃ response, ((s.serve r).run (World.answer supply) w).1 = some response ∧
      ((s.serve r).run (World.answer supply') w').1 = some response ∧
      (response.status = 200 ↔ (Endpoint.listMembers id).Permits s p) ∧
      (response.status = 200 → OrganizationId.ofText? id = some p.organization ∧
        ∃ members body, w.memory.directory.Lists p.organization members ∧
          response = .json 200 body ∧ ShowsMembers p.organization members body) := by
  obtain ⟨response, hrun, htold⟩ := told_of_bears hr (Directory.sound_of_reached hreached) hbears
  obtain ⟨response', hrun', htold'⟩ :=
    told_of_bears hr (Directory.sound_of_reached hreached') hbears'
  cases told_unique htold htold' hsame
  exact ⟨response, hrun, hrun', told_ok_iff htold, told_of_ok htold⟩

/-- A directory with one organization, and one in which somebody else has another. -/
def annsDirectory : Directory := (Directory.empty.insert ann noon).2

def sharedDirectory : Directory :=
  (annsDirectory.createOrganization "Elsewhere" "eve@example.org" "Eve"
    ⟨⟨.ofNat 20⟩, noon, ⟨.ofNat 21⟩, noon⟩).2

def eve : Principal := .fresh ⟨.ofNat 21⟩ ⟨.ofNat 20⟩ "eve@example.org" "Eve" .owner noon

def homesRoster : Endpoint := .listMembers "00000000-0000-7000-8000-00000000000a"

/-- A request for the members, with a token. -/
def rollCall (token : String) : Request where
  method := .get
  target := ⟨homesRoster.path, none⟩
  headers := [("authorization", bearing token)]
  body := []

theorem takes_rollCall (token : String) : homesRoster.Takes (rollCall token) := by
  refine ⟨rfl, rfl, ?_⟩
  rintro id ⟨⟩
  decide

/-- Ann sees her own organization, and not that Eve has come. -/
theorem an_owner_sees_no_other_tenant :
    ∃ token response members body,
      plainService.signer.issue? ann noon = some (.ok token) ∧
      annsDirectory.users.values ≠ sharedDirectory.users.values ∧
      (∀ d ∈ [annsDirectory, sharedDirectory],
        ((plainService.serve (rollCall token)).run (World.answer plainSupply)
          (annsWorld.withDirectory d 0)).1 = some response) ∧
      response = .json 200 body ∧ ShowsMembers home members body ∧
      annsDirectory.Lists home members := by
  have hanns : annsDirectory.users.values = [ann] := rfl
  have hshared : sharedDirectory.users.values = [eve, ann] := rfl
  have hreached : (annsWorld.withDirectory annsDirectory 0).memory.directory.Reached :=
    .insert .empty ann noon
  have hreached' : (annsWorld.withDirectory sharedDirectory 0).memory.directory.Reached :=
    .createOrganization hreached _ _ _ _
  have hepoch : 0 ≤ noon.nanos := by decide
  have hcalendar : (noon.add? (900 * 1000000000)).isSome := by decide
  have hborne : ∀ d : Directory, d.users.find? ann.id = some ann →
      ∃ token, plainService.signer.issue? ann noon = some (.ok token) ∧ ∀ r : Request,
        r.headers.lookup "authorization" = some (bearing token) →
        Bears plainService plainSupply (annsWorld.withDirectory d 0) r ann := fun d hknown =>
    issued_is_borne plainService Rsa.PrivateKey.refusal?_mersenne Rsa.PrivateKey.sound_mersenne
      plainSupply (annsWorld.withDirectory d 0) hknown hepoch hcalendar
  obtain ⟨token, hissue, hbears⟩ := hborne annsDirectory rfl
  obtain ⟨token', hissue', hbears'⟩ := hborne sharedDirectory rfl
  cases hissue.symm.trans hissue'
  have hsame : ∀ q, q.organization = ann.organization →
      (q ∈ annsDirectory.users.values ↔ q ∈ sharedDirectory.users.values) := by
    intro q hq
    have hne : q ≠ eve := by
      rintro rfl
      exact absurd hq (by decide)
    simp [hanns, hshared, hne]
  obtain ⟨response, hrun, hrun', hiff, hok⟩ := no_tenant_shows_in_the_members_of_another plainService
    (takes_rollCall token) hreached hreached' (hbears _ rfl) (hbears' _ rfl) hsame
  have hpermits : homesRoster.Permits plainService ann := by
    refine ⟨?_, ?_⟩
    · rintro q ⟨⟩
      decide
    · rintro id ⟨⟩
      decide
  obtain ⟨-, members, body, hlists, hresponse, hshows⟩ := hok (hiff.mpr hpermits)
  refine ⟨token, response, members, body, hissue, by simp [hanns, hshared], ?_, hresponse, hshows,
    hlists⟩
  simp only [List.forall_mem_cons]
  exact ⟨hrun, hrun', by simp⟩

end TenantAuth.Api
