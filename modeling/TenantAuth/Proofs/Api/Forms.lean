-- What the forms of the organization requests must hold, and what is stored of them. The
-- checks look at the texts as they were sent, and names are stored without the blanks around
-- them: what was checked is carried over to what is stored.

import TenantAuth.Proofs.Api.Bodies
import TenantAuth.Proofs.Api.Effects
import TenantAuth.Proofs.Field
import TenantAuth.Proofs.Text.Trim

namespace TenantAuth

open TenantAuth.Text

/-! ## Names -/

namespace Field

variable {name : String}

theorem trimChars_isEmpty_iff :
    (trimChars name.toList).isEmpty = true ↔ ∀ c ∈ name.toList, isBlank c = true := by
  rw [List.isEmpty_iff, trimChars_eq_nil_iff]

theorem exists_not_isBlank_iff :
    (∃ c ∈ name.toList, isBlank c = false) ↔ ¬ (trimChars name.toList).isEmpty = true := by
  rw [trimChars_isEmpty_iff]
  simp

theorem nameFault?_eq_none_iff :
    nameFault? name = none ↔ (∃ c ∈ name.toList, isBlank c = false) ∧ name.length ≤ 255 := by
  rw [exists_not_isBlank_iff]
  unfold nameFault? nameLimit
  split
  · simp_all
  · split <;> simp_all

theorem nameFault?_eq_empty_iff :
    nameFault? name = some .empty ↔ ∀ c ∈ name.toList, isBlank c = true := by
  rw [← trimChars_isEmpty_iff]
  unfold nameFault?
  split
  · simp_all
  · split <;> simp_all

theorem nameFault?_eq_tooLong_iff :
    nameFault? name = some .tooLong ↔
      (∃ c ∈ name.toList, isBlank c = false) ∧ 255 < name.length := by
  rw [exists_not_isBlank_iff]
  unfold nameFault? nameLimit
  split
  · simp_all
  · split <;> simp_all

theorem nameFault?_ne_notEmail : nameFault? name ≠ some .notEmail := by
  unfold nameFault?
  split
  · simp
  · split <;> simp

end Field

/-- This is stored of a name that was sent: the text without the blanks around it. -/
structure StoredAs (sent stored : String) : Prop where
  trimmed : Trims sent.toList stored.toList
  nonempty : stored ≠ ""
  fits : stored.length ≤ 255

theorem storedAs_trim {name : String} (h : ∃ c ∈ name.toList, isBlank c = false)
    (hfits : name.length ≤ 255) : StoredAs name (trim name) := by
  obtain ⟨c, hc, hnot⟩ := h
  have htrims := trims_trimChars name.toList
  refine ⟨?_, ?_, ?_⟩
  · rw [trim, String.toList_ofList]
    exact htrims
  · rw [trim, Ne, String.ofList_eq_empty_iff, trimChars_eq_nil_iff]
    intro hblank
    rw [hblank c hc] at hnot
    cases hnot
  · rw [trim, String.length_ofList]
    have hle := htrims.length_le
    rw [String.length_toList] at hle
    omega

/-! ## Fields of forms -/

/-- A field of a form, with what was sent for it. -/
inductive Entry where
  | name (field text : String)
  | email (field text : String)

namespace Entry

def field : Entry → String
  | name field _ | email field _ => field

/-- What may be sent for a field. -/
def Valid : Entry → Prop
  | name _ text => (∃ c ∈ text.toList, isBlank c = false) ∧ text.length ≤ 255
  | email _ text => Field.IsAddress text

/-- What is wrong with a field. -/
def Fails : Entry → FieldFault → Prop
  | name _ text, .empty => ∀ c ∈ text.toList, isBlank c = true
  | name _ text, .tooLong => (∃ c ∈ text.toList, isBlank c = false) ∧ 255 < text.length
  | name _ _, .notEmail => False
  | email _ text, .empty => text = ""
  | email _ text, .tooLong => 255 < text.utf8ByteSize
  | email _ text, .notEmail => text ≠ "" ∧ text.utf8ByteSize ≤ 255 ∧ ¬ Field.IsAddress text

/-- What the check of a field finds. -/
def fault? : Entry → Option FieldFault
  | name _ text => Field.nameFault? text
  | email _ text => Field.emailFault? text

theorem fault?_eq_none_iff {e : Entry} : e.fault? = none ↔ e.Valid := by
  cases e with
  | name _ text => exact Field.nameFault?_eq_none_iff
  | email _ text => exact Field.emailFault?_eq_none_iff

theorem fault?_eq_some_iff {e : Entry} {fault : FieldFault} :
    e.fault? = some fault ↔ e.Fails fault := by
  cases e with
  | name _ text =>
    cases fault with
    | empty => exact Field.nameFault?_eq_empty_iff
    | tooLong => exact Field.nameFault?_eq_tooLong_iff
    | notEmail => exact iff_of_false Field.nameFault?_ne_notEmail id
  | email _ text =>
    cases fault with
    | empty => exact Field.emailFault?_eq_empty_iff
    | tooLong => exact Field.emailFault?_eq_tooLong_iff
    | notEmail => exact Field.emailFault?_eq_notEmail_iff

/-- The refusal of a field. -/
def refusal? (e : Entry) : Option FieldError := e.fault?.map fun fault => ⟨e.field, fault⟩

theorem refusal?_eq_none_iff {e : Entry} : e.refusal? = none ↔ e.Valid := by
  rw [refusal?, Option.map_eq_none_iff, fault?_eq_none_iff]

/-- The field is refused, and those before it are not. -/
theorem findSome?_refusal? {before after : List Entry} {e : Entry} {fault : FieldFault}
    (hbefore : ∀ e' ∈ before, e'.Valid) (h : e.Fails fault) :
    (before ++ e :: after).findSome? refusal? = some ⟨e.field, fault⟩ := by
  rw [List.findSome?_eq_some_iff]
  refine ⟨before, e, after, rfl, ?_, fun e' he' => refusal?_eq_none_iff.mpr (hbefore e' he')⟩
  rw [refusal?, fault?_eq_some_iff.mpr h]
  rfl

end Entry

/-! ## Forms -/

namespace Api

open TenantAuth.Http

/-- The body of a request of an organization. -/
inductive Form where
  | organization (form : OrganizationForm)
  | member (form : MemberForm)

namespace Form

/-- The fields of a form, in the order in which they are checked. -/
def entries : Form → List Entry
  | organization form =>
    [.name "name" form.name, .email "owner_email" form.ownerEmail, .name "owner_name" form.ownerName]
  | member form => [.email "email" form.email, .name "name" form.name]

def check : Form → Except FieldError Unit
  | organization form => form.check
  | member form => form.check

/-- The first field that is refused is the refusal of the form. -/
theorem check_eq (form : Form) :
    form.check = match form.entries.findSome? Entry.refusal? with
      | none => .ok ()
      | some refusal => .error refusal := by
  cases form with
  | organization form =>
    change form.check = _
    unfold OrganizationForm.check Field.checkName Field.checkEmail
    simp only [entries, List.findSome?_cons, Entry.refusal?, Entry.fault?, Entry.field]
    cases Field.nameFault? form.name with
    | some fault => rfl
    | none =>
      cases Field.emailFault? form.ownerEmail with
      | some fault => rfl
      | none => cases Field.nameFault? form.ownerName <;> rfl
  | member form =>
    change form.check = _
    unfold MemberForm.check Field.checkName Field.checkEmail
    simp only [entries, List.findSome?_cons, Entry.refusal?, Entry.fault?, Entry.field]
    cases Field.emailFault? form.email with
    | some fault => rfl
    | none => cases Field.nameFault? form.name <;> rfl

theorem check_eq_ok_iff {form : Form} :
    form.check = .ok () ↔ ∀ entry ∈ form.entries, entry.Valid := by
  simp only [check_eq, ← Entry.refusal?_eq_none_iff, ← List.findSome?_eq_none_iff]
  cases form.entries.findSome? Entry.refusal? <;> simp

theorem check_of_fails {form : Form} {before after : List Entry} {entry : Entry} {fault : FieldFault}
    (hentries : form.entries = before ++ entry :: after)
    (hbefore : ∀ earlier ∈ before, earlier.Valid) (h : entry.Fails fault) :
    form.check = .error ⟨entry.field, fault⟩ := by
  rw [check_eq, hentries, Entry.findSome?_refusal? hbefore h]

/-- What is done with a form that is not refused: the directory is handed the names without
the blanks around them, and the email as it is. -/
def filing (o : OrganizationId) : Form → Handler Response
  | organization form => do
    let new ← Handler.ask .newOrganization
    let created ← Handler.stores (BackendProgram.directory
      (.createOrganization (trim form.name) form.ownerEmail (trim form.ownerName) new))
    organizationAnswer created
  | member form => do
    let new ← Handler.ask .newUser
    let added ← Handler.stores (BackendProgram.directory
      (.addUser o form.email (trim form.name) new))
    memberAnswer added

end Form

namespace Endpoint

/-- The form in the body of a request. -/
def form? (r : Request) : Endpoint → Option Form
  | createOrganization => (r.json?.bind OrganizationForm.ofJson?).map .organization
  | addMember _ => (r.json?.bind MemberForm.ofJson?).map .member
  | listMembers _ | whoami => none

section

variable {e : Endpoint} {s : Service} {r : Request} {p : Principal}

theorem handler_of_unreadable (hpost : e.method = .post) (h : e.form? r = none) :
    e.handler s r p = pure Answer.invalidRequest := by
  cases e with
  | createOrganization =>
    rw [form?, Option.map_eq_none_iff] at h
    simp only [handler, Service.createOrganization, h]
  | addMember id =>
    rw [form?, Option.map_eq_none_iff] at h
    simp only [handler, Service.addMember, h]
  | listMembers id => cases hpost
  | whoami => cases hpost

theorem handler_of_refused {form : Form} {refusal : FieldError} (h : e.form? r = some form)
    (hcheck : form.check = .error refusal) :
    e.handler s r p = pure (Service.invalidField refusal) := by
  cases e with
  | createOrganization =>
    obtain ⟨f, hform, rfl⟩ := Option.map_eq_some_iff.mp h
    rw [Form.check] at hcheck
    simp only [handler, Service.createOrganization, hform, hcheck]
  | addMember id =>
    obtain ⟨f, hform, rfl⟩ := Option.map_eq_some_iff.mp h
    rw [Form.check] at hcheck
    simp only [handler, Service.addMember, hform, hcheck]
  | listMembers id => cases h
  | whoami => cases h

theorem handler_of_accepted {form : Form} (h : e.form? r = some form) (hcheck : form.check = .ok ()) :
    e.handler s r p = form.filing p.organization := by
  cases e with
  | createOrganization =>
    obtain ⟨f, hform, rfl⟩ := Option.map_eq_some_iff.mp h
    rw [Form.check] at hcheck
    simp only [handler, Service.createOrganization, hform, hcheck]
    rfl
  | addMember id =>
    obtain ⟨f, hform, rfl⟩ := Option.map_eq_some_iff.mp h
    rw [Form.check] at hcheck
    simp only [handler, Service.addMember, hform, hcheck, Form.filing]
    congr
    funext new
    congr
    funext added
    unfold memberAnswer
    rcases added with e | member
    · cases e <;> rfl
    · rfl
  | listMembers id => cases h
  | whoami => cases h

end

end Endpoint

/-! ## What is stored -/

/-- The organization and the owner that are stored for a form. -/
structure Founded (form : OrganizationForm) (d : Directory) (o : Organization) (owner : Principal) :
    Prop where
  name : StoredAs form.name o.name
  ownerName : StoredAs form.ownerName owner.name
  ownerEmail : owner.email = form.ownerEmail
  address : Field.IsAddress owner.email
  organization : d.organizations.find? o.id = some o
  owner : d.users.find? owner.id = some owner

/-- The member that is stored for a form. -/
structure Joined (form : MemberForm) (d : Directory) (m : Principal) : Prop where
  name : StoredAs form.name m.name
  email : m.email = form.email
  address : Field.IsAddress m.email
  member : d.users.find? m.id = some m

/-- What a form asks for is stored, and the answer shows it as it is stored. -/
def Form.Filed (response : Response) (d : Directory) : Form → Prop
  | organization form => ∃ o owner body, Founded form d o owner ∧ response = .json 201 body ∧
      ShowsFounding o owner body
  | member form => ∃ m body, Joined form d m ∧ response = .json 201 body ∧ ShowsMember m body

section

variable {supply : Supply} {w : World}

theorem filed_createOrganization {r : Request} {form : OrganizationForm}
    (hform : r.json?.bind OrganizationForm.ofJson? = some form) (hcheck : form.check = .ok ())
    (hvalid : ∀ entry ∈ (Form.organization form).entries, entry.Valid) :
    Ends supply w (Service.createOrganization r) fun response w' =>
      response.status = 201 → (Form.organization form).Filed response w'.memory.directory := by
  rcases Directory.createOrganization_cases w.memory.directory (trim form.name) form.ownerEmail
    (trim form.ownerName) (supply.organization w.calls) with ⟨e, hcreate⟩ | ⟨-, hcreate⟩
  · apply ((ends_fail e.toAuthError _).of_run (run_createOrganization hform hcheck hcreate)).imp
    exact fun _ _ h h201 => absurd h201 h.1
  · refine ⟨_, _, run_createOrganization hform hcheck hcreate, fun _ => ?_⟩
    simp only [Form.entries, List.forall_mem_cons] at hvalid
    obtain ⟨⟨hname, hfits⟩, haddress, ⟨hownerName, hownerFits⟩, -⟩ := hvalid
    refine ⟨(supply.organization w.calls).toOrganization (trim form.name),
      (supply.organization w.calls).toOwner form.ownerEmail (trim form.ownerName), _, ?_, rfl,
      showsFounding_of_fields _ _⟩
    refine ⟨storedAs_trim hname hfits, storedAs_trim hownerName hownerFits, rfl, haddress, ?_, ?_⟩
    · exact (Keyed.find?_put _ _ _ _).trans (if_pos rfl)
    · exact (Keyed.find?_put _ _ _ _).trans (if_pos rfl)

theorem filed_addMember {o : OrganizationId} {r : Request} {form : MemberForm}
    (hform : r.json?.bind MemberForm.ofJson? = some form) (hcheck : form.check = .ok ())
    (hvalid : ∀ entry ∈ (Form.member form).entries, entry.Valid) :
    Ends supply w (Service.addMember o r) fun response w' =>
      response.status = 201 → (Form.member form).Filed response w'.memory.directory := by
  rcases Directory.addUser_cases w.memory.directory o form.email (trim form.name)
    (supply.user w.calls) with ⟨e, hadd⟩ | ⟨-, -, hadd⟩
  · apply ((ends_memberAnswer e _).of_run (run_addMember hform hcheck hadd)).imp
    exact fun _ _ h h201 => absurd h201 h.1
  · refine ⟨_, _, run_addMember hform hcheck hadd, fun _ => ?_⟩
    simp only [Form.entries, List.forall_mem_cons] at hvalid
    obtain ⟨haddress, ⟨hname, hfits⟩, -⟩ := hvalid
    refine ⟨(supply.user w.calls).toSubAccount o form.email (trim form.name), _, ?_, rfl,
      showsMember_memberJson _⟩
    refine ⟨storedAs_trim hname hfits, rfl, haddress, ?_⟩
    exact (Keyed.find?_put _ _ _ _).trans (if_pos rfl)

/-- What comes of a form that somebody sends who may be let through. Whatever is refused is
answered without any call, and the world is left as it is behind the gate. -/
structure Screened (e : Endpoint) (s : Service) (supply : Supply) (w : World) (r : Request)
    (p : Principal) (response : Response) (w' : World) : Prop where
  unreadable : e.form? r = none →
    e.handler s r p = pure Answer.invalidRequest ∧ response = Answer.invalidRequest ∧ w' = w.spent 2
  invalid : ∀ form before entry after fault, e.form? r = some form →
    form.entries = before ++ entry :: after → (∀ earlier ∈ before, earlier.Valid) →
    entry.Fails fault → ∃ refusal, refusal =
      Answer.problem 400 "validation_failed" (entry.field ++ ": " ++ fault.message) ∧
      e.handler s r p = pure refusal ∧ response = refusal ∧ w' = w.spent 2
  valid : ∀ form, e.form? r = some form → (∀ entry ∈ form.entries, entry.Valid) →
    e.handler s r p = form.filing p.organization
  created : response.status = 201 → ∃ form, e.form? r = some form ∧
    (∀ entry ∈ form.entries, entry.Valid) ∧ form.Filed response w'.memory.directory

variable {e : Endpoint} {s : Service} {r : Request} {p : Principal} {form : Form}

theorem screened_unreadable (hpost : e.method = .post) (h : e.form? r = none) :
    Screened e s supply w r p Answer.invalidRequest (w.spent 2) where
  unreadable _ := ⟨Endpoint.handler_of_unreadable hpost h, rfl, rfl⟩
  invalid form _ _ _ _ hform := by simp [h] at hform
  valid form hform := by simp [h] at hform
  created h201 := by cases h201

theorem screened_refused (h : e.form? r = some form) {refusal : FieldError}
    (hcheck : form.check = .error refusal) :
    Screened e s supply w r p (Service.invalidField refusal) (w.spent 2) where
  unreadable hnone := by simp [h] at hnone
  invalid form' before entry after fault hform hentries hbefore hfails := by
    cases h.symm.trans hform
    cases hcheck.symm.trans (Form.check_of_fails hentries hbefore hfails)
    exact ⟨_, rfl, Endpoint.handler_of_refused h hcheck, rfl, rfl⟩
  valid form' hform hvalid := by
    cases h.symm.trans hform
    cases hcheck.symm.trans (Form.check_eq_ok_iff.mpr hvalid)
  created h201 := by cases h201

theorem screened_accepted (h : e.form? r = some form) (hcheck : form.check = .ok ())
    {response : Response} {w' : World}
    (hfiled : response.status = 201 → form.Filed response w'.memory.directory) :
    Screened e s supply w r p response w' where
  unreadable hnone := by simp [h] at hnone
  invalid form' before entry after fault hform hentries hbefore hfails := by
    cases h.symm.trans hform
    cases hcheck.symm.trans (Form.check_of_fails hentries hbefore hfails)
  valid form' hform _ := by
    cases h.symm.trans hform
    exact Endpoint.handler_of_accepted h hcheck
  created h201 := ⟨form, h, Form.check_eq_ok_iff.mp hcheck, hfiled h201⟩

theorem ends_of_accepted (h : e.form? r = some form) (hcheck : form.check = .ok ()) :
    Ends supply w (e.handler s r p) fun response w' =>
      response.status = 201 → form.Filed response w'.memory.directory := by
  have hvalid := Form.check_eq_ok_iff.mp hcheck
  cases e with
  | createOrganization =>
    obtain ⟨f, hform, rfl⟩ := Option.map_eq_some_iff.mp h
    exact filed_createOrganization hform hcheck hvalid
  | addMember id =>
    obtain ⟨f, hform, rfl⟩ := Option.map_eq_some_iff.mp h
    exact filed_addMember hform hcheck hvalid
  | listMembers id => cases h
  | whoami => cases h

end

/-- A body that is no form, or a form with a field that is not as it should be, is answered
with 400 and comes to no directory; the first such field is named. With any other form the
directory is asked to store the names without the blanks around them and the email as it is.
Where the answer is 201, that is what is found there and shown: names that are not empty, not
too long and have no blanks at their ends, and an email that has the form of one. -/
theorem forms_are_screened_before_they_are_filed {e : Endpoint} {r : Request} (he : e.Takes r)
    (hpost : e.method = .post) (s : Service) (supply : Supply) (w : World) {p : Principal}
    (hbears : Bears s supply w r p) (hpermits : e.Permits s p) :
    ∃ response w', (s.serve r).run (World.answer supply) w = (some response, w') ∧
      Screened e s supply w r p response w' := by
  rw [run_serve_of_permits he hbears hpermits]
  cases hform : e.form? r with
  | none =>
    refine ⟨_, _, ?_, screened_unreadable hpost hform⟩
    rw [Endpoint.handler_of_unreadable hpost hform]
    rfl
  | some form =>
    cases hcheck : form.check with
    | error refusal =>
      refine ⟨_, _, ?_, screened_refused hform hcheck⟩
      rw [Endpoint.handler_of_refused hform hcheck]
      rfl
    | ok =>
      obtain ⟨response, w', hrun, hfiled⟩ := ends_of_accepted hform hcheck
      exact ⟨response, w', hrun, screened_accepted hform hcheck hfiled⟩

/-- An invitation with blanks of three kinds around the name. -/
def paddedInvitation (token : String) : Request :=
  { invitation token with
    body := octets "\x7b\"email\":\"bob@example.org\",\"name\":\" \\tBob\\u3000\"\x7d" }

theorem form_paddedInvitation (token : String) :
    (paddedInvitation token).json?.bind MemberForm.ofJson? =
      some ⟨"bob@example.org", " \tBob\u3000"⟩ := by
  have hjson : (paddedInvitation token).json? = (paddedInvitation "").json? := rfl
  rw [hjson]
  decide +kernel

theorem trim_padded : trim " \tBob\u3000" = "Bob" := by decide +kernel

theorem a_padded_name_is_stored_without_its_blanks :
    ∃ token, plainService.signer.issue? ann noon = some (.ok token) ∧
      homesMembers.Takes (paddedInvitation token) ∧ homesMembers.method = .post ∧
      Bears plainService plainSupply annsWorld (paddedInvitation token) ann ∧
      homesMembers.Permits plainService ann ∧
      ∃ response w', (plainService.serve (paddedInvitation token)).run (World.answer plainSupply)
          annsWorld = (some response, w') ∧
        Screened homesMembers plainService plainSupply annsWorld (paddedInvitation token) ann
          response w' ∧
        ∃ body m, response = .json 201 body ∧ body.field? "name" = some (.string "Bob") ∧
          m.name = "Bob" ∧ m.email = "bob@example.org" ∧
          w'.memory.directory.users.find? m.id = some m := by
  have hknown : annsWorld.memory.directory.users.find? ann.id = some ann := rfl
  obtain ⟨token, hissue, hborne⟩ := issued_is_borne plainService Rsa.PrivateKey.refusal?_mersenne
    Rsa.PrivateKey.sound_mersenne plainSupply annsWorld hknown (by decide) (by decide)
  have htakes : homesMembers.Takes (paddedInvitation token) :=
    ⟨rfl, rfl, (takes_invitation token).2.2⟩
  have hbears := hborne (paddedInvitation token) rfl
  obtain ⟨response, w', hrun, hscreened⟩ := forms_are_screened_before_they_are_filed htakes rfl
    plainService plainSupply annsWorld hbears permits_homesMembers
  have hstatus : response.status = 201 := by
    have hserved : (Service.addMember home (paddedInvitation token)).run (World.answer plainSupply)
        (annsWorld.spent 2) = (some response, w') :=
      (run_serve_of_permits htakes hbears permits_homesMembers).symm.trans hrun
    rw [run_addMember (form_paddedInvitation token) (by decide +kernel) rfl] at hserved
    cases hserved
    rfl
  refine ⟨token, hissue, htakes, rfl, hbears, permits_homesMembers, response, w', hrun, hscreened, ?_⟩
  obtain ⟨form, hform, -, hfiled⟩ := hscreened.created hstatus
  have hread : homesMembers.form? (paddedInvitation token) =
      some (.member ⟨"bob@example.org", " \tBob\u3000"⟩) :=
    congrArg (Option.map Form.member) (form_paddedInvitation token)
  cases hread.symm.trans hform
  obtain ⟨m, body, hjoined, hresponse, hshows⟩ := hfiled
  have hname : m.name = "Bob" := by
    rw [← trim_padded, trim, trims_iff.mp hjoined.name.trimmed, String.ofList_toList]
  exact ⟨body, m, hresponse, hname ▸ hshows.name, hname, hjoined.email, hjoined.member⟩

end Api

end TenantAuth
