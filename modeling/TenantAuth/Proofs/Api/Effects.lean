-- What the protected requests leave behind. A request that is refused changes nothing
-- that lasts, and one that is let through adds what it was asked for or nothing.

import TenantAuth.Proofs.Api.Bearer
import TenantAuth.Proofs.Directory

namespace TenantAuth.Api

open TenantAuth.Http

/-- Nothing that lasts is changed. -/
def World.Kept (w w' : World) : Prop := w'.memory = w.memory ∧ w'.states = w.states

/-- One principal more, a sub-account of the organization, and nothing else. -/
structure MemberAdded (o : OrganizationId) (w w' : World) : Prop where
  users : ∃ m, m.role = .subAccount ∧ m.organization = o ∧
    w'.memory.directory.users.entries = (m.id, m) :: w.memory.directory.users.entries
  organizations : w'.memory.directory.organizations = w.memory.directory.organizations
  sessions : w'.memory.sessions = w.memory.sessions
  states : w'.states = w.states

/-- One organization more with its owner, and nothing else. -/
structure OrganizationAdded (w w' : World) : Prop where
  directory : ∃ o owner, o.owner = some owner.id ∧ owner.role = .owner ∧ owner.organization = o.id ∧
    w'.memory.directory.organizations.entries = (o.id, o) :: w.memory.directory.organizations.entries ∧
    w'.memory.directory.users.entries = (owner.id, owner) :: w.memory.directory.users.entries
  sessions : w'.memory.sessions = w.memory.sessions
  states : w'.states = w.states

/-- Of the ids that are supplied the directory has none. -/
structure Fresh (supply : Supply) (d : Directory) : Prop where
  user : ∀ n, d.users.find? (supply.user n).id = none
  organization : ∀ n, d.organizations.find? (supply.organization n).id = none
  owner : ∀ n, d.users.find? (supply.organization n).owner = none

/-! ## The handlers -/

/-- A run ends with an answer, of which something holds. -/
def Ends (supply : Supply) (w : World) (h : Handler Response) (Q : Response → World → Prop) : Prop :=
  ∃ response w', h.run (World.answer supply) w = (some response, w') ∧ Q response w'

section

variable {supply : Supply} {w : World}

theorem Ends.of_run {h h' : Handler Response} {w' : World} {Q : Response → World → Prop}
    (hends : Ends supply w' h' Q)
    (hrun : h.run (World.answer supply) w = h'.run (World.answer supply) w') : Ends supply w h Q := by
  obtain ⟨response, w'', hrun', hq⟩ := hends
  exact ⟨response, w'', hrun.trans hrun', hq⟩

theorem Ends.imp {h : Handler Response} {Q Q' : Response → World → Prop} (hends : Ends supply w h Q)
    (himp : ∀ response w', Q response w' → Q' response w') : Ends supply w h Q' := by
  obtain ⟨response, w', hrun, hq⟩ := hends
  exact ⟨response, w', hrun, himp response w' hq⟩

/-- The world with another directory, so many calls later. -/
def World.withDirectory (w : World) (d : Directory) (n : Nat) : World :=
  { w with calls := w.calls + n, memory := { w.memory with directory := d } }

theorem status_ofError (e : AuthError) : (Answer.ofError e).status ≠ 201 := by
  cases e <;> simp [Answer.ofError, Answer.unauthorized, Answer.forbidden, Answer.problem,
    Response.json]

/-- A failure is at most logged. -/
theorem ends_fail (e : AuthError) (w : World) :
    Ends supply w (Handler.fail e) fun response w' => response.status ≠ 201 ∧ w.Kept w' := by
  cases e <;> exact ⟨_, _, rfl, status_ofError _, rfl, rfl⟩

theorem ends_listMembers (o : OrganizationId) :
    Ends supply w (Service.listMembers o) fun response w' => response.status ≠ 201 ∧ w.Kept w' :=
  ⟨_, _, rfl, by simp [Response.json], rfl, rfl⟩

theorem ends_whoami (s : Service) (p : Principal) :
    Ends supply w (s.whoami p) fun response w' => response.status ≠ 201 ∧ w.Kept w' :=
  ⟨_, _, rfl, by simp [Response.json], rfl, rfl⟩

/-- What is answered when the directory was asked to add a member. -/
def memberAnswer : Except StoreError Principal → Handler Response
  | .ok member => pure (.json 201 (Service.memberJson member))
  | .error (.limitReached _) =>
    pure (Answer.problem 403 "max_sub_accounts" "maximum sub-accounts reached")
  | .error e => Handler.fail e.toAuthError

theorem ends_memberAnswer (e : StoreError) (w : World) :
    Ends supply w (memberAnswer (.error e)) fun response w' =>
      response.status ≠ 201 ∧ w.Kept w' := by
  unfold memberAnswer
  cases e with
  | limitReached _ => exact ⟨_, _, rfl, by simp [Answer.problem, Response.json], rfl, rfl⟩
  | unavailable _ => exact ends_fail _ w
  | conflict _ => exact ends_fail _ w
  | corrupt _ => exact ends_fail _ w
  | missing _ => exact ends_fail _ w

theorem run_addMember {o : OrganizationId} {r : Request} {form : MemberForm}
    (hform : r.json?.bind MemberForm.ofJson? = some form) (hcheck : form.check = .ok ())
    {reply : Except StoreError Principal} {d : Directory}
    (hadd : w.memory.directory.addUser o form.email (Text.trim form.name) (supply.user w.calls) =
      (reply, d)) :
    (Service.addMember o r).run (World.answer supply) w =
      (memberAnswer reply).run (World.answer supply) (w.withDirectory d 2) := by
  have hrun : ∀ next : Except StoreError Principal → Handler Response,
      ((Handler.ask .newUser).andThen fun new => (Handler.stores (BackendProgram.directory
        (.addUser o form.email (Text.trim form.name) new))).andThen next).run (World.answer supply) w =
      (next reply).run (World.answer supply) (w.withDirectory d 2) := by
    intro next
    change (next (w.memory.directory.addUser o form.email (Text.trim form.name)
      (supply.user w.calls)).1).run (World.answer supply)
      (w.withDirectory (w.memory.directory.addUser o form.email (Text.trim form.name)
      (supply.user w.calls)).2 2) = _
    rw [hadd]
  simp only [Service.addMember, hform, hcheck]
  refine (hrun _).trans ?_
  unfold memberAnswer
  rcases reply with e | member
  · cases e <;> rfl
  · rfl

theorem ends_addMember (o : OrganizationId) (r : Request) :
    Ends supply w (Service.addMember o r) fun response w' =>
      (response.status = 201 ∧ (Fresh supply w.memory.directory → MemberAdded o w w')) ∨
        (response.status ≠ 201 ∧ w.Kept w') := by
  cases hform : r.json?.bind MemberForm.ofJson? with
  | none =>
    refine ⟨Answer.invalidRequest, w, ?_, Or.inr ⟨by decide, rfl, rfl⟩⟩
    rw [Service.addMember, hform]
    rfl
  | some form =>
    cases hcheck : form.check with
    | error e =>
      refine ⟨Service.invalidField e, w, ?_, Or.inr ⟨?_, rfl, rfl⟩⟩
      · simp only [Service.addMember, hform, hcheck]
        rfl
      · simp [Service.invalidField, Answer.problem, Response.json]
    | ok =>
      rcases Directory.addUser_cases w.memory.directory o form.email (Text.trim form.name)
        (supply.user w.calls) with ⟨e, hadd⟩ | ⟨-, -, hadd⟩
      · apply ((ends_memberAnswer e _).of_run (run_addMember hform hcheck hadd)).imp
        exact fun _ _ h => Or.inr h
      · refine ⟨_, _, run_addMember hform hcheck hadd, Or.inl ⟨rfl, fun hfresh => ?_⟩⟩
        refine ⟨?_, rfl, rfl, rfl⟩
        exact ⟨(supply.user w.calls).toSubAccount o form.email (Text.trim form.name), rfl, rfl,
          Keyed.entries_put_of_find?_eq_none (hfresh.user w.calls) _⟩

/-- What is answered when the directory was asked to create an organization. -/
def organizationAnswer (created : Except StoreError (Organization × Principal)) : Handler Response :=
  Handler.orFail StoreError.toAuthError created fun (organization, owner) =>
    pure (.json 201
      (.object [("organization", organization.toJson), ("owner", Service.memberJson owner)]))

theorem run_createOrganization {r : Request} {form : OrganizationForm}
    (hform : r.json?.bind OrganizationForm.ofJson? = some form) (hcheck : form.check = .ok ())
    {reply : Except StoreError (Organization × Principal)} {d : Directory}
    (hcreate : w.memory.directory.createOrganization (Text.trim form.name) form.ownerEmail
      (Text.trim form.ownerName) (supply.organization w.calls) = (reply, d)) :
    (Service.createOrganization r).run (World.answer supply) w =
      (organizationAnswer reply).run (World.answer supply) (w.withDirectory d 2) := by
  simp only [Service.createOrganization, hform, hcheck]
  change (organizationAnswer (w.memory.directory.createOrganization (Text.trim form.name)
    form.ownerEmail (Text.trim form.ownerName) (supply.organization w.calls)).1).run
    (World.answer supply) (w.withDirectory (w.memory.directory.createOrganization
    (Text.trim form.name) form.ownerEmail (Text.trim form.ownerName)
    (supply.organization w.calls)).2 2) = _
  rw [hcreate]

theorem ends_createOrganization (r : Request) :
    Ends supply w (Service.createOrganization r) fun response w' =>
      (response.status = 201 ∧ (Fresh supply w.memory.directory → OrganizationAdded w w')) ∨
        (response.status ≠ 201 ∧ w.Kept w') := by
  cases hform : r.json?.bind OrganizationForm.ofJson? with
  | none =>
    refine ⟨Answer.invalidRequest, w, ?_, Or.inr ⟨by decide, rfl, rfl⟩⟩
    rw [Service.createOrganization, hform]
    rfl
  | some form =>
    cases hcheck : form.check with
    | error e =>
      refine ⟨Service.invalidField e, w, ?_, Or.inr ⟨?_, rfl, rfl⟩⟩
      · simp only [Service.createOrganization, hform, hcheck]
        rfl
      · simp [Service.invalidField, Answer.problem, Response.json]
    | ok =>
      rcases Directory.createOrganization_cases w.memory.directory (Text.trim form.name)
        form.ownerEmail (Text.trim form.ownerName) (supply.organization w.calls) with
        ⟨e, hcreate⟩ | ⟨-, hcreate⟩
      · apply ((ends_fail e.toAuthError _).of_run (run_createOrganization hform hcheck hcreate)).imp
        exact fun _ _ h => Or.inr h
      · refine ⟨_, _, run_createOrganization hform hcheck hcreate, Or.inl ⟨rfl, fun hfresh => ?_⟩⟩
        refine ⟨?_, rfl, rfl⟩
        exact ⟨(supply.organization w.calls).toOrganization (Text.trim form.name),
          (supply.organization w.calls).toOwner form.ownerEmail (Text.trim form.ownerName),
          rfl, rfl, rfl,
          Keyed.entries_put_of_find?_eq_none (hfresh.organization w.calls) _,
          Keyed.entries_put_of_find?_eq_none (hfresh.owner w.calls) _⟩

/-! ## Gates and effects together -/

theorem bears_unique {s : Service} {r : Request} {p p' : Principal} (h : Bears s supply w r p)
    (h' : Bears s supply w r p') : p = p' := by
  obtain ⟨header, token, c, hheader, htoken, hverify, hfind, -⟩ := h
  obtain ⟨header', token', c', hheader', htoken', hverify', hfind', -⟩ := h'
  cases hheader.symm.trans hheader'
  cases htoken.symm.trans htoken'
  cases hverify.symm.trans hverify'
  exact Option.some.inj (hfind.symm.trans hfind')

end

/-- What a request adds for a principal when it is answered with 201. -/
def Endpoint.Adds (e : Endpoint) (p : Principal) (w w' : World) : Prop :=
  match e with
  | .createOrganization => OrganizationAdded w w'
  | .addMember _ => MemberAdded p.organization w w'
  | .listMembers _ | .whoami => False

theorem ends_handler (supply : Supply) (w : World) (e : Endpoint) (s : Service) (r : Request)
    (p : Principal) :
    Ends supply w (e.handler s r p) fun response w' =>
      (response.status = 201 ∧ (Fresh supply w.memory.directory → e.Adds p w w')) ∨
        (response.status ≠ 201 ∧ w.Kept w') := by
  cases e with
  | createOrganization => exact ends_createOrganization r
  | listMembers id => exact (ends_listMembers p.organization).imp fun _ _ h => Or.inr h
  | addMember id => exact ends_addMember p.organization r
  | whoami => exact (ends_whoami s p).imp fun _ _ h => Or.inr h

theorem Endpoint.adds_of_spent {e : Endpoint} {p : Principal} {w w' : World} {n : Nat}
    (h : e.Adds p (w.spent n) w') : e.Adds p w w' := by
  cases e with
  | createOrganization => exact ⟨h.directory, h.sessions, h.states⟩
  | addMember id => exact ⟨h.users, h.organizations, h.sessions, h.states⟩
  | listMembers id => exact h
  | whoami => exact h

/-- All that a protected request may do: the path is looked at first, then the
credentials, then the permission, and only the handler of a principal that may be let
through changes anything. -/
structure Guarded (e : Endpoint) (s : Service) (supply : Supply) (w : World) (r : Request)
    (response : Response) (w' : World) : Prop where
  malformed : e.Malformed → response = invalidOrganization ∧ w' = w
  unknown : ¬ e.Malformed → (∀ p, ¬ Bears s supply w r p) →
    response = Answer.unauthorized ∧ w.Kept w'
  denied : ¬ e.Malformed → ∀ p, Bears s supply w r p → ¬ e.Permits s p →
    response = Answer.forbidden ∧ w.Kept w'
  served : ¬ e.Malformed → ∀ p, Bears s supply w r p → e.Permits s p →
    (e.handler s r p).run (World.answer supply) (w.spent 2) = (some response, w')
  /-- Something is added when the ids that are supplied are new. -/
  adds : response.status = 201 → Fresh supply w.memory.directory →
    ∃ p, Bears s supply w r p ∧ e.Permits s p ∧ e.Adds p w w'
  kept : response.status ≠ 201 → w.Kept w'

theorem kept_spent (w : World) (n : Nat) : w.Kept (w.spent n) := ⟨rfl, rfl⟩

theorem guarded_malformed {e : Endpoint} (h : e.Malformed) (s : Service) (supply : Supply) (w : World)
    (r : Request) : Guarded e s supply w r invalidOrganization w where
  malformed _ := ⟨rfl, rfl⟩
  unknown hpath := absurd h hpath
  denied hpath := absurd h hpath
  served hpath := absurd h hpath
  adds h201 := by cases h201
  kept _ := ⟨rfl, rfl⟩

section

variable {e : Endpoint} {s : Service} {supply : Supply} {w : World} {r : Request}

theorem guarded_unknown (n : Nat) (hpath : ¬ e.Malformed) (h : ∀ p, ¬ Bears s supply w r p) :
    Guarded e s supply w r Answer.unauthorized (w.spent n) where
  malformed hpath' := absurd hpath' hpath
  unknown _ _ := ⟨rfl, kept_spent w n⟩
  denied _ p hbears := absurd hbears (h p)
  served _ p hbears := absurd hbears (h p)
  adds h201 := by cases h201
  kept _ := kept_spent w n

theorem guarded_denied {p : Principal} (hpath : ¬ e.Malformed) (hbears : Bears s supply w r p)
    (h : ¬ e.Permits s p) : Guarded e s supply w r Answer.forbidden (w.spent 2) where
  malformed hpath' := absurd hpath' hpath
  unknown _ hnobody := absurd hbears (hnobody p)
  denied _ _ _ _ := ⟨rfl, kept_spent w 2⟩
  served _ p' hbears' hpermits := by
    cases bears_unique hbears hbears'
    exact absurd hpermits h
  adds h201 := by cases h201
  kept _ := kept_spent w 2

theorem guarded_served {p : Principal} (hpath : ¬ e.Malformed) (hbears : Bears s supply w r p)
    (h : e.Permits s p) {response : Response} {w' : World}
    (hrun : (e.handler s r p).run (World.answer supply) (w.spent 2) = (some response, w'))
    (hends : (response.status = 201 ∧
        (Fresh supply w.memory.directory → e.Adds p (w.spent 2) w')) ∨
      (response.status ≠ 201 ∧ (w.spent 2).Kept w')) : Guarded e s supply w r response w' where
  malformed hpath' := absurd hpath' hpath
  unknown _ hnobody := absurd hbears (hnobody p)
  denied _ p' hbears' hdenied := by
    cases bears_unique hbears hbears'
    exact absurd h hdenied
  served _ p' hbears' _ := by
    cases bears_unique hbears hbears'
    exact hrun
  adds h201 hfresh := by
    rcases hends with ⟨-, hadds⟩ | ⟨hne, -⟩
    · exact ⟨p, hbears, h, Endpoint.adds_of_spent (hadds hfresh)⟩
    · exact absurd h201 hne
  kept hne := by
    rcases hends with ⟨h201, -⟩ | ⟨-, hkept⟩
    · exact absurd h201 hne
    · exact hkept

end

theorem protected_requests_are_guarded {e : Endpoint} {r : Request} (he : e.Takes r) (s : Service)
    (supply : Supply) (w : World) :
    ∃ response w', (s.serve r).run (World.answer supply) w = (some response, w') ∧
      Guarded e s supply w r response w' := by
  have hpassage := passage (s := s) he supply w
  generalize (s.serve r).run (World.answer supply) w = ran at hpassage ⊢
  cases hpassage with
  | malformed h => exact ⟨_, _, rfl, guarded_malformed h s supply w r⟩
  | unknown n hpath h => exact ⟨_, _, rfl, guarded_unknown n hpath h⟩
  | denied hpath hbears h => exact ⟨_, _, rfl, guarded_denied hpath hbears h⟩
  | @served p hpath hbears h =>
    obtain ⟨response, w', hrun, hends⟩ := ends_handler supply (w.spent 2) e s r p
    exact ⟨response, w', hrun, guarded_served hpath hbears h hrun hends⟩

/-! ## An owner and a new member -/

/-- A service with the usual permissions. -/
def plainService : Service := ⟨⟨.mersenne⟩, .standard, none, 0, false⟩

def noon : Instant := ⟨1700000000500000000, by decide, by decide⟩

/-- A supply of which every value stays the same. -/
def plainSupply : Supply where
  clock _ := noon
  secret _ := "secret"
  loginState _ := "state"
  sessionId _ := ⟨.ofNat 1⟩
  organization _ := ⟨⟨.ofNat 2⟩, noon, ⟨.ofNat 3⟩, noon⟩
  user _ := ⟨⟨.ofNat 4⟩, noon⟩
  exchange _ _ := .error .unauthenticated
  late _ := false

def home : OrganizationId := ⟨.ofNat 0x0000000000007000800000000000000a⟩

def ann : Principal := .fresh ⟨.ofNat 5⟩ home "ann@example.org" "Ann" .owner noon

/-- A world with one organization and its owner. -/
def annsWorld : World :=
  { World.empty with memory := { Memory.empty with directory :=
      ⟨Keyed.empty.put ann.id ann, Keyed.empty.put home (.fresh home "Home" noon)⟩ } }

def homesMembers : Endpoint := .addMember "00000000-0000-7000-8000-00000000000a"

/-- A request to add a member, with a token. -/
def invitation (token : String) : Request where
  method := .post
  target := ⟨homesMembers.path, none⟩
  headers := [("authorization", bearing token), ("content-type", octets "application/json")]
  body := octets "\x7b\"email\":\"bob@example.org\",\"name\":\"Bob\"\x7d"

theorem takes_invitation (token : String) : homesMembers.Takes (invitation token) := by
  refine ⟨rfl, rfl, ?_⟩
  rintro id ⟨⟩
  decide

theorem form_invitation (token : String) :
    (invitation token).json?.bind MemberForm.ofJson? = some ⟨"bob@example.org", "Bob"⟩ := by
  have hjson : (invitation token).json? = (invitation "").json? := rfl
  rw [hjson]
  decide +kernel

theorem permits_homesMembers : homesMembers.Permits plainService ann := by
  refine ⟨?_, ?_⟩
  · rintro q ⟨⟩
    decide
  · rintro id ⟨⟩
    decide

theorem fresh_plainSupply : Fresh plainSupply annsWorld.memory.directory := by
  constructor <;> exact fun _ => rfl

theorem an_owner_adds_a_member :
    ∃ token, plainService.signer.issue? ann noon = some (.ok token) ∧
      homesMembers.Takes (invitation token) ∧
      ∃ response w', (plainService.serve (invitation token)).run (World.answer plainSupply) annsWorld =
          (some response, w') ∧
        Guarded homesMembers plainService plainSupply annsWorld (invitation token) response w' ∧
        response.status = 201 ∧ MemberAdded home annsWorld w' := by
  have hknown : annsWorld.memory.directory.users.find? ann.id = some ann := rfl
  obtain ⟨token, hissue, hborne⟩ := issued_is_borne plainService Rsa.PrivateKey.refusal?_mersenne
    Rsa.PrivateKey.sound_mersenne plainSupply annsWorld hknown (by decide) (by decide)
  have hbears := hborne (invitation token) rfl
  obtain ⟨response, w', hrun, hguarded⟩ := protected_requests_are_guarded (takes_invitation token)
    plainService plainSupply annsWorld
  have hpath : ¬ homesMembers.Malformed := by
    rw [Endpoint.malformed_iff]
    decide
  have hstatus : response.status = 201 := by
    have hserved : (Service.addMember home (invitation token)).run (World.answer plainSupply)
        (annsWorld.spent 2) = (some response, w') :=
      hguarded.served hpath ann hbears permits_homesMembers
    rw [run_addMember (form_invitation token) (by decide +kernel) rfl] at hserved
    cases hserved
    rfl
  obtain ⟨p, hbears', -, hadds⟩ := hguarded.adds hstatus fresh_plainSupply
  cases bears_unique hbears hbears'
  exact ⟨token, hissue, takes_invitation token, response, w', hrun, hguarded, hstatus, hadds⟩

end TenantAuth.Api
