-- What comes of asking to add a sub-account. The refusals have an order: somebody has the email,
-- there is no such organization, it has all the sub-accounts it may have. Whoever comes in comes
-- in alone, so no organization gets over its quota in this way, and one that is full stays as it is.

import TenantAuth.Proofs.Directory.Growth

namespace TenantAuth.Directory

/-! ## What decides -/

/-- Somebody of any organization has the email. -/
def Taken (d : Directory) (email : String) : Prop := ∃ p ∈ d.users.values, p.email = email

/-- How many sub-accounts an organization has. Its owners and admins do not count. -/
def subAccountCount (d : Directory) (o : OrganizationId) : Nat :=
  d.users.values.countP fun p => p.organization = o ∧ p.role = .subAccount

/-- Somebody whom the directory is asked to add. -/
structure Applicant where
  organization : OrganizationId
  email : String
  name : String
  new : NewUser
  deriving DecidableEq

def Applicant.call (a : Applicant) : DirectoryCall := .addUser a.organization a.email a.name a.new

/-- How the request ends, and why. -/
inductive Admission (d : Directory) (a : Applicant) : Except StoreError Principal × Directory → Prop
  | taken (h : d.Taken a.email) : Admission d a (.error (.emailTaken a.email), d)
  | absent (hfree : ¬ d.Taken a.email) (h : d.organizations.find? a.organization = none) :
      Admission d a (.error (.noOrganization a.organization), d)
  | full {organization : Organization} (hfree : ¬ d.Taken a.email)
      (hfind : d.organizations.find? a.organization = some organization)
      (h : organization.maxSubAccounts.toNat ≤ d.subAccountCount a.organization) :
      Admission d a
        (.error (.fullOrganization a.organization (d.subAccountCount a.organization)), d)
  | added {organization : Organization} (hfree : ¬ d.Taken a.email)
      (hfind : d.organizations.find? a.organization = some organization)
      (h : d.subAccountCount a.organization < organization.maxSubAccounts.toNat) :
      Admission d a (.ok (a.new.toSubAccount a.organization a.email a.name),
        d.file (a.new.toSubAccount a.organization a.email a.name))

theorem length_subAccounts (d : Directory) (o : OrganizationId) :
    (d.subAccounts o).length = d.subAccountCount o := by
  unfold subAccounts members subAccountCount
  rw [List.filter_filter, List.countP_eq_length_filter]
  congr 1
  refine List.filter_congr fun p _ => ?_
  simp [Principal.belongsTo, Bool.and_comm, beq_eq_decide]

theorem taken_of_findByEmail? {d : Directory} {email : String} {p : Principal}
    (h : d.findByEmail? email = some p) : d.Taken email :=
  ⟨p, List.mem_of_find?_eq_some h, by simpa using List.find?_some h⟩

theorem not_taken_of_findByEmail? {d : Directory} {email : String}
    (h : d.findByEmail? email = none) : ¬ d.Taken email := by
  rintro ⟨p, hp, hemail⟩
  have hother := List.find?_eq_none.mp h p hp
  exact hother (by simpa using hemail)

theorem admission (d : Directory) (a : Applicant) : d.Admission a (d.answer a.call) := by
  change d.Admission a (d.addUser a.organization a.email a.name a.new)
  unfold addUser
  cases hemail : d.findByEmail? a.email with
  | some p => exact .taken (taken_of_findByEmail? hemail)
  | none =>
    have hfree := not_taken_of_findByEmail? hemail
    cases hfind : d.organizations.find? a.organization with
    | none => exact .absent hfree hfind
    | some organization =>
      dsimp only
      rw [length_subAccounts]
      by_cases hfull : organization.maxSubAccounts.toNat ≤ d.subAccountCount a.organization
      · rw [if_pos hfull]
        exact .full hfree hfind hfull
      · rw [if_neg hfull]
        exact .added hfree hfind (Nat.lt_of_not_le hfull)

/-! ## The verdict -/

/-- A principal comes in, and nothing else changes. -/
structure Joins (d d' : Directory) (a : Applicant) (p : Principal) : Prop where
  fresh : d.users.find? p.id = none
  organization : p.organization = a.organization
  role : p.role = .subAccount
  email : p.email = a.email
  name : p.name = a.name
  overrides : p.overrides = .empty
  users : d'.users.entries = (p.id, p) :: d.users.entries
  organizations : d'.organizations = d.organizations

/-- Each reply is given in one case only, and the cases come in an order. -/
structure Decided (d : Directory) (a : Applicant) (reply : Except StoreError Principal)
    (d' : Directory) : Prop where
  conflict : (∃ text, reply = .error (.conflict text)) ↔ d.Taken a.email
  missing : (∃ text, reply = .error (.missing text)) ↔
    ¬ d.Taken a.email ∧ d.organizations.find? a.organization = none
  limitReached : (∃ text, reply = .error (.limitReached text)) ↔
    ¬ d.Taken a.email ∧ ∃ organization, d.organizations.find? a.organization = some organization ∧
      organization.maxSubAccounts.toNat ≤ d.subAccountCount a.organization
  ok : (∃ p, reply = .ok p) ↔
    ¬ d.Taken a.email ∧ ∃ organization, d.organizations.find? a.organization = some organization ∧
      d.subAccountCount a.organization < organization.maxSubAccounts.toNat
  /-- A refusal tells its cause. -/
  texts : ∀ e, reply = .error e → e ∈ [StoreError.emailTaken a.email,
    .noOrganization a.organization,
    .fullOrganization a.organization (d.subAccountCount a.organization)]
  joins : ∀ p, reply = .ok p → d.Joins d' a p
  refused : ∀ e, reply = .error e → d' = d

theorem joins_file {d : Directory} {a : Applicant} (hnew : d.users.find? a.new.id = none) :
    d.Joins (d.file (a.new.toSubAccount a.organization a.email a.name)) a
      (a.new.toSubAccount a.organization a.email a.name) where
  fresh := hnew
  organization := rfl
  role := rfl
  email := rfl
  name := rfl
  overrides := rfl
  users := Keyed.entries_put_of_find?_eq_none hnew _
  organizations := rfl

theorem Admission.decided {d : Directory} {a : Applicant} (hnew : d.users.find? a.new.id = none)
    {reply : Except StoreError Principal × Directory} (h : d.Admission a reply) :
    d.Decided a reply.1 reply.2 := by
  cases h with
  | taken h =>
    constructor <;> simp [h, StoreError.emailTaken]
  | absent hfree h =>
    constructor <;> simp [hfree, h, StoreError.noOrganization]
  | full hfree hfind h =>
    constructor <;> simp [hfree, hfind, h, StoreError.fullOrganization]
  | added hfree hfind h =>
    constructor
    case joins =>
      rintro p ⟨⟩
      exact joins_file hnew
    all_goals simp [hfree, hfind, h]

/-! ## Quotas -/

/-- The directory when it was asked to add some people, one after the other. -/
def admitting (d : Directory) (applicants : List Applicant) : Directory :=
  applicants.foldl (fun d a => (d.answer a.call).2) d

/-- No organization gets over its quota that was not over it, and where it was used up nobody
comes in. -/
structure QuotasKept (d d' : Directory) : Prop where
  organizations : d'.organizations = d.organizations
  within : ∀ o organization, d.organizations.find? o = some organization →
    d.subAccountCount o ≤ organization.maxSubAccounts.toNat →
      d'.subAccountCount o ≤ organization.maxSubAccounts.toNat
  full : ∀ o organization, d.organizations.find? o = some organization →
    organization.maxSubAccounts.toNat ≤ d.subAccountCount o → d'.members o = d.members o

theorem quotasKept_refl (d : Directory) : d.QuotasKept d := ⟨rfl, fun _ _ _ h => h, fun _ _ _ _ => rfl⟩

theorem subAccountCount_congr {d d' : Directory} {o : OrganizationId}
    (h : d'.members o = d.members o) : d'.subAccountCount o = d.subAccountCount o := by
  rw [← length_subAccounts, ← length_subAccounts, subAccounts, subAccounts, h]

theorem QuotasKept.trans {d d' d'' : Directory} (h : d.QuotasKept d') (h' : d'.QuotasKept d'') :
    d.QuotasKept d'' := by
  have hfinds : ∀ {o organization}, d.organizations.find? o = some organization →
      d'.organizations.find? o = some organization := fun hfind => by rw [h.organizations, hfind]
  refine ⟨h'.organizations.trans h.organizations, fun o organization hfind hle => ?_,
    fun o organization hfind hfull => ?_⟩
  · exact h'.within o organization (hfinds hfind) (h.within o organization hfind hle)
  · have hmembers := h.full o organization hfind hfull
    rw [h'.full o organization (hfinds hfind) (subAccountCount_congr hmembers ▸ hfull), hmembers]

/-- One more member is one more sub-account at most. -/
theorem quotasKept_joins {d d' : Directory} {a : Applicant} {p : Principal} (h : d.Joins d' a p)
    (hroom : ∀ organization, d.organizations.find? a.organization = some organization →
      d.subAccountCount a.organization < organization.maxSubAccounts.toNat) : d.QuotasKept d' := by
  have hvalues : d'.users.values = p :: d.users.values := by
    unfold Keyed.values
    rw [h.users]
    rfl
  refine ⟨h.organizations, fun o organization hfind hle => ?_, fun o organization hfind hfull => ?_⟩
  · unfold subAccountCount at *
    rw [hvalues, List.countP_cons]
    by_cases ho : o = a.organization
    · subst ho
      have hlt := hroom organization hfind
      split <;> omega
    · simpa [h.organization, Ne.symm ho] using hle
  · have ho : a.organization ≠ o := by
      rintro rfl
      exact absurd (hroom organization hfind) (Nat.not_lt.mpr hfull)
    unfold members
    rw [hvalues, List.filter_cons_of_neg (by simpa [Principal.belongsTo, h.organization] using ho)]

theorem quotasKept_call {d : Directory} {a : Applicant} (hnew : d.users.find? a.new.id = none) :
    d.QuotasKept (d.answer a.call).2 := by
  have hadmission := d.admission a
  generalize d.answer a.call = reply at hadmission
  cases hadmission with
  | taken | absent | full => exact quotasKept_refl d
  | added hfree hfind h =>
    refine quotasKept_joins (joins_file hnew) fun organization hfind' => ?_
    cases hfind.symm.trans hfind'
    exact h

theorem quotasKept_admitting {applicants : List Applicant} {d : Directory}
    (h : d.UnusedFrom (applicants.map Applicant.call)) : d.QuotasKept (d.admitting applicants) := by
  induction applicants generalizing d with
  | nil => exact quotasKept_refl d
  | cons a applicants ih => exact (quotasKept_call (h.1.1 _ rfl)).trans (ih h.2)

/-- Whatever is in a directory, a request to add somebody is refused because somebody has the
email, else because the organization is not there, else because it has no room, and otherwise
one new sub-account comes in; a refusal changes nothing. However many requests there are, no
organization gets over its quota by them, and one that has used it up gets nobody. -/
theorem adding_is_decided_in_order {d : Directory} {a : Applicant} {later : List Applicant}
    (h : d.UnusedFrom ((a :: later).map Applicant.call)) :
    d.Decided a (d.answer a.call).1 (d.answer a.call).2 ∧ d.QuotasKept (d.admitting (a :: later)) :=
  ⟨(d.admission a).decided (h.1.1 _ rfl), quotasKept_admitting h⟩

/-- A sub-account of an organization, who is put in by hand. -/
def handmade (o u : Nat) (email : String) : Turn :=
  .insert (.fresh ⟨.ofNat u⟩ ⟨.ofNat o⟩ email "" .subAccount .epoch) .epoch

/-- The ids of Acme and of its owner. -/
def acmeIds : NewOrganization := ⟨⟨.ofNat 2⟩, .epoch, ⟨.ofNat 21⟩, .epoch⟩

/-- Initech has six sub-accounts, one more than it may have; Acme has an owner and one sub-account. -/
def crowded : Directory :=
  after [handmade 1 11 "a@initech.org", handmade 1 12 "b@initech.org", handmade 1 13 "c@initech.org",
    handmade 1 14 "d@initech.org", handmade 1 15 "e@initech.org", handmade 1 16 "f@initech.org",
    .call (.createOrganization "Acme" "olive@acme.org" "Olive" acmeIds),
    handmade 2 22 "sam@acme.org"]

/-- Somebody new for Initech. -/
def seventh : Applicant := ⟨⟨.ofNat 1⟩, "g@initech.org", "G", ⟨⟨.ofNat 17⟩, .epoch⟩⟩

/-- Two for Acme, of whom one comes with an email of Initech, and one for nowhere. -/
def applicants : List Applicant :=
  [⟨⟨.ofNat 2⟩, "tom@acme.org", "Tom", ⟨⟨.ofNat 23⟩, .epoch⟩⟩,
   ⟨⟨.ofNat 2⟩, "a@initech.org", "A", ⟨⟨.ofNat 24⟩, .epoch⟩⟩,
   ⟨⟨.ofNat 9⟩, "ned@acme.org", "Ned", ⟨⟨.ofNat 25⟩, .epoch⟩⟩]

theorem initech_gets_nobody :
    crowded.UnusedFrom ((seventh :: applicants).map Applicant.call) ∧
    (∃ text, (crowded.answer seventh.call).1 = .error (.limitReached text)) ∧
    (crowded.answer seventh.call).2 = crowded ∧
    (crowded.admitting (seventh :: applicants)).members ⟨.ofNat 1⟩ = crowded.members ⟨.ofNat 1⟩ ∧
    (crowded.admitting (seventh :: applicants)).subAccountCount ⟨.ofNat 2⟩ ≤ 5 := by
  have h : crowded.UnusedFrom ((seventh :: applicants).map Applicant.call) := by decide
  obtain ⟨hdecided, hquotas⟩ := adding_is_decided_in_order h
  have hfull : 5 ≤ crowded.subAccountCount ⟨.ofNat 1⟩ := by decide
  have hfree : ¬ crowded.Taken seventh.email := by unfold Taken; decide
  obtain ⟨text, htext⟩ := hdecided.limitReached.mpr ⟨hfree, _, rfl, hfull⟩
  refine ⟨h, ⟨text, htext⟩, hdecided.refused _ htext, ?_, ?_⟩
  · exact hquotas.full _ _ rfl hfull
  · exact hquotas.within ⟨.ofNat 2⟩ (acmeIds.toOrganization "Acme") rfl (by decide)

end TenantAuth.Directory
