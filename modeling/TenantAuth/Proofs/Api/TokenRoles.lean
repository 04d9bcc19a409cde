-- What an accepted token says besides its user and its organization. The service does not
-- look at it: the same request is served in the same way with every token of one user, as
-- the directory has that user at the moment.

import TenantAuth.Proofs.Api.Effects

namespace TenantAuth

namespace Authentication

theorem verdictOn_congr {c c' : Claims} (h : c.organization = c'.organization) :
    verdictOn c = verdictOn c' := by
  funext reply
  rcases reply with f | _ | p
  · rfl
  · rfl
  · simp only [verdictOn, h]

theorem principalOf_congr {c c' : Claims} (huser : c.user = c'.user)
    (horganization : c.organization = c'.organization) : principalOf c = principalOf c' := by
  obtain ⟨user, organization, role, issuedAt, notBefore, expiresAt⟩ := c
  cases huser
  rw [principalOf_eq, principalOf_eq, verdictOn_congr horganization]

theorem shows_of_verify {signer : Signer} {token : String} {now : Instant} {c : Claims}
    (h : signer.verify token now = .ok c) : Shows signer (some ("Bearer " ++ token)) now c := by
  obtain ⟨hne, hvisible⟩ := Signer.visible_of_open (Signer.verify_eq_ok_iff.mp h).1
  exact shows_iff.mpr ⟨token, Api.bearerToken?_bearing hne hvisible, h⟩

end Authentication

namespace Api

open TenantAuth.Http

/-! ## The same request once more -/

/-- The requests are the same, but for whom they show. -/
structure Resent (r r' : Request) : Prop where
  method : r.method = r'.method
  target : r.target = r'.target
  body : r.body = r'.body
  headers : ∀ name, name ≠ "authorization" → r.headers.lookup name = r'.headers.lookup name

section

variable {r r' : Request} (h : Resent r r')

include h

theorem json?_of_resent : r.json? = r'.json? := by
  have hheader : r.header? "content-type" = r'.header? "content-type" :=
    congrArg (Option.bind · _) (h.headers "content-type" (by decide))
  unfold Request.json?
  rw [hheader, h.body]

theorem takes_of_resent {e : Endpoint} (he : e.Takes r) : e.Takes r' := by
  obtain ⟨hmethod, hpath, hid⟩ := he
  exact ⟨h.method.symm.trans hmethod, h.target ▸ hpath, hid⟩

theorem handler_of_resent (e : Endpoint) (s : Service) (p : Principal) :
    e.handler s r p = e.handler s r' p := by
  have hjson := json?_of_resent h
  cases e with
  | createOrganization => simp only [Endpoint.handler, Service.createOrganization, hjson]
  | listMembers id => rfl
  | addMember id => simp only [Endpoint.handler, Service.addMember, hjson]
  | whoami => rfl

theorem act_of_resent {e : Endpoint} {target : Option OrganizationId}
    (htarget : e.target? = some target) (s : Service) (p : Principal) :
    s.act r target (some p) e.action = s.act r' target (some p) e.action := by
  by_cases hpermits : e.Permits s p
  · rw [act_of_permits htarget hpermits, act_of_permits htarget hpermits,
      handler_of_resent h e s p]
  · rw [act_of_not_permits htarget hpermits, act_of_not_permits htarget hpermits]

end

/-! ## Behind the token -/

section

variable {s : Service} {e : Endpoint} {r : Request} {target : Option OrganizationId} {c : Claims}

/-- The clock, the user of the token, and the verdict. -/
theorem serve_of_shows (he : e.Takes r) (htarget : e.target? = some target) :
    ∃ next, s.serve r = .call .clock next ∧
      ∀ now c, Authentication.Shows s.signer (r.header? "authorization") now c →
        next now =
          (Handler.stores (Authentication.principalOf c)).andThen
            (letIn fun p => s.act r target (some p) e.action) := by
  refine ⟨fun now => (Handler.stores
    (Authentication.authenticate s.signer (r.header? "authorization") now)).andThen
      (letIn fun p => s.act r target (some p) e.action), ?_, fun now c hshows => ?_⟩
  · rw [serve_eq he, htarget]
    rfl
  · simp only [Authentication.authenticate_of_shows hshows]

/-- Whom the directory knows in the organization of the token is let in. -/
theorem run_letIn {σ : Type}
    {answer : (c : Call BackendCall) → σ → Option (c.Reply BackendCall.Reply) × σ} {w w' : σ}
    {p : Principal}
    (hreply : answer (.backend (Authentication.lookUp c)) w = (some (.ok (some p)), w'))
    (horganization : p.organization = c.organization) (inner : Principal → Handler Response) :
    ((Handler.stores (Authentication.principalOf c)).andThen (letIn inner)).run answer w =
      (inner p).run answer w' := by
  have hverdict : Authentication.verdictOn c (.ok (some p)) = .ok p :=
    Authentication.verdictOn_eq_ok_iff.mpr ⟨rfl, horganization⟩
  rw [Authentication.principalOf_eq]
  refine (Program.run_call_some hreply).trans ?_
  change (letIn inner (Authentication.verdictOn c (.ok (some p)))).run answer w' = _
  rw [hverdict]
  rfl

end

/-! ## The law -/

/-- A request is served with two tokens in the same way, and as the directory has their user
when it is asked. -/
structure RoleBlind {σ : Type} (s : Service) (e : Endpoint) (c : Claims)
    (answer : (c : Call BackendCall) → σ → Option (c.Reply BackendCall.Reply) × σ) (w w₁ : σ)
    (r r' : Request) : Prop where
  /-- The response is the same, and so is all that is left behind. -/
  run_eq : (s.serve r).run answer w = (s.serve r').run answer w
  asked_eq : (s.serve r).asked answer w = (s.serve r').asked answer w
  permitted : ∀ p w₂, answer (.backend (Authentication.lookUp c)) w₁ = (some (.ok (some p)), w₂) →
    p.organization = c.organization → e.Permits s p →
    (s.serve r).run answer w = (e.handler s r p).run answer w₂
  denied : ∀ p w₂, answer (.backend (Authentication.lookUp c)) w₁ = (some (.ok (some p)), w₂) →
    p.organization = c.organization → ¬ e.Malformed → ¬ e.Permits s p →
    (s.serve r).run answer w = (some Answer.forbidden, w₂)

section

variable {σ : Type} {s : Service} {e : Endpoint} {c c' : Claims} {now : Instant}
  {answer : (c : Call BackendCall) → σ → Option (c.Reply BackendCall.Reply) × σ} {w w₁ : σ}
  {r r' : Request}

theorem roleBlind_malformed (he : e.Takes r) (hresent : Resent r r') (htarget : e.target? = none) :
    RoleBlind s e c answer w w₁ r r' where
  run_eq := by rw [serve_eq he, serve_eq (takes_of_resent hresent he), htarget]
  asked_eq := by rw [serve_eq he, serve_eq (takes_of_resent hresent he), htarget]
  permitted _ _ _ _ hpermits :=
    absurd (e.malformed_iff.mpr htarget) (Endpoint.not_malformed_of_permits hpermits)
  denied _ _ _ _ hpath := absurd (e.malformed_iff.mpr htarget) hpath

theorem roleBlind_of_shows (he : e.Takes r) (hresent : Resent r r')
    {target : Option OrganizationId} (htarget : e.target? = some target)
    (hshows : Authentication.Shows s.signer (r.header? "authorization") now c)
    (hshows' : Authentication.Shows s.signer (r'.header? "authorization") now c')
    (hprincipal : Authentication.principalOf c = Authentication.principalOf c')
    (hclock : answer .clock w = (some now, w₁)) : RoleBlind s e c answer w w₁ r r' := by
  obtain ⟨next, hserve, hnext⟩ := serve_of_shows (s := s) he htarget
  obtain ⟨next', hserve', hnext'⟩ := serve_of_shows (s := s) (takes_of_resent hresent he) htarget
  have hsame : next now = next' now := by
    rw [hnext now c hshows, hnext' now c' hshows', hprincipal,
      funext fun p => act_of_resent hresent htarget s p]
  have hrun : (s.serve r).run answer w =
      ((Handler.stores (Authentication.principalOf c)).andThen
        (letIn fun p => s.act r target (some p) e.action)).run answer w₁ := by
    rw [hserve, Program.run_call_some hclock, hnext now c hshows]
  refine ⟨?_, ?_, fun p w₂ hreply horganization hpermits => ?_,
    fun p w₂ hreply horganization _ hpermits => ?_⟩
  · rw [hserve, hserve', Program.run_call_some hclock, Program.run_call_some hclock, hsame]
  · rw [hserve, hserve', Program.asked_call_some hclock, Program.asked_call_some hclock, hsame]
  · rw [hrun, run_letIn hreply horganization, act_of_permits htarget hpermits]
  · rw [hrun, run_letIn hreply horganization, act_of_not_permits htarget hpermits]
    rfl

end

/-- Of two tokens of one user in one organization that are accepted now, either is as good as
the other: authentication is the same, and the same request gets the same answer with either,
leaving the same behind, whatever the stores do. Which answer it gets is up to the directory,
as it has the user when it is asked. -/
theorem token_roles_never_count (s : Service) {now : Instant} {token token' : String}
    {c c' : Claims} (hverify : s.signer.verify token now = .ok c)
    (hverify' : s.signer.verify token' now = .ok c') (huser : c.user = c'.user)
    (horganization : c.organization = c'.organization) :
    Authentication.authenticate s.signer (some ("Bearer " ++ token)) now =
        Authentication.authenticate s.signer (some ("Bearer " ++ token')) now ∧
      ∀ (e : Endpoint) (r r' : Request), e.Takes r → Resent r r' →
        r.header? "authorization" = some ("Bearer " ++ token) →
        r'.header? "authorization" = some ("Bearer " ++ token') →
        ∀ (σ : Type) (answer : (c : Call BackendCall) → σ → Option (c.Reply BackendCall.Reply) × σ)
          (w w₁ : σ), answer .clock w = (some now, w₁) → RoleBlind s e c answer w w₁ r r' := by
  have hshows := Authentication.shows_of_verify hverify
  have hshows' := Authentication.shows_of_verify hverify'
  have hprincipal := Authentication.principalOf_congr huser horganization
  refine ⟨?_, fun e r r' he hresent hr hr' σ answer w w₁ hclock => ?_⟩
  · rw [Authentication.authenticate_of_shows hshows, Authentication.authenticate_of_shows hshows',
      hprincipal]
  · rw [← hr] at hshows
    rw [← hr'] at hshows'
    cases htarget : e.target? with
    | none => exact roleBlind_malformed he hresent htarget
    | some target => exact roleBlind_of_shows he hresent htarget hshows hshows' hprincipal hclock

/-- Ann, after she handed over. -/
def demotedAnn : Principal := { ann with role := .subAccount }

def worldAfterAnn : World := annsWorld.withDirectory (annsWorld.memory.directory.file demotedAnn) 0

/-- A token that was given out to an owner gets no further than one of a sub-account, once the
directory has its user as one. -/
theorem a_demoted_owner_is_refused :
    ∃ token token' c c', plainService.signer.issue? ann noon = some (.ok token) ∧
      plainService.signer.issue? demotedAnn noon = some (.ok token') ∧
      plainService.signer.verify token noon = .ok c ∧
      plainService.signer.verify token' noon = .ok c' ∧
      RoleBlind plainService homesMembers c (World.answer plainSupply) worldAfterAnn
        (worldAfterAnn.spent 1) (invitation token) (invitation token') ∧
      ((plainService.serve (invitation token)).run (World.answer plainSupply) worldAfterAnn).1 =
        some Answer.forbidden := by
  have hepoch : 0 ≤ noon.nanos := by decide
  have hcalendar : (noon.add? (900 * 1000000000)).isSome := by decide
  obtain ⟨token, c, hissue, hverify, huser, horganization⟩ := Signer.issued_is_accepted
    Rsa.PrivateKey.refusal?_mersenne Rsa.PrivateKey.sound_mersenne ann hepoch hcalendar
  obtain ⟨token', c', hissue', hverify', huser', horganization'⟩ := Signer.issued_is_accepted
    Rsa.PrivateKey.refusal?_mersenne Rsa.PrivateKey.sound_mersenne demotedAnn hepoch hcalendar
  have hheader : ∀ {token c}, plainService.signer.verify token noon = .ok c →
      (invitation token).header? "authorization" = some ("Bearer " ++ token) := fun hverify =>
    header?_bearing rfl (Signer.visible_of_open (Signer.verify_eq_ok_iff.mp hverify).1).2
  have hresent : Resent (invitation token) (invitation token') := by
    refine ⟨rfl, rfl, rfl, fun name hname => ?_⟩
    have hother : (name == "authorization") = false := by simpa using hname
    simp only [invitation, List.lookup_cons, hother]
  have hblind := (token_roles_never_count plainService hverify hverify' (huser.trans huser'.symm)
    (horganization.trans horganization'.symm)).2 homesMembers _ _ (takes_invitation token) hresent
    (hheader hverify) (hheader hverify') World (World.answer plainSupply) worldAfterAnn
    (worldAfterAnn.spent 1) rfl
  have hreply : World.answer plainSupply (.backend (Authentication.lookUp c))
      (worldAfterAnn.spent 1) = (some (.ok (some demotedAnn)), worldAfterAnn.spent 2) := by
    have hfind : worldAfterAnn.memory.directory.users.find? c.user = some demotedAnn := by
      rw [huser]
      rfl
    exact congrArg (fun found => (some (Except.ok found), worldAfterAnn.spent 2)) hfind
  have hpath : ¬ homesMembers.Malformed := by
    rw [Endpoint.malformed_iff]
    decide
  have hpermits : ¬ homesMembers.Permits plainService demotedAnn := by
    rintro ⟨hpermission, -⟩
    exact absurd (hpermission _ rfl) (by decide)
  have hrun := hblind.denied demotedAnn _ hreply horganization.symm hpath hpermits
  exact ⟨token, token', c, c', hissue, hissue', hverify, hverify', hblind, congrArg Prod.fst hrun⟩

end Api

end TenantAuth
