-- Organizations that come about by calls alone. Each has one owner, whom it names, and
-- besides the owner only sub-accounts, no more of them than it may have.

import TenantAuth.Proofs.Directory.Turns

namespace TenantAuth

/-! ## New ids -/

namespace DirectoryCall

/-- The id that a call gives to a new user. -/
def newUser? : DirectoryCall → Option UserId
  | .createOrganization _ _ _ new | .provisionOwner _ _ new => some new.owner
  | .addUser _ _ _ new => some new.id
  | .findById _ | .findByEmail _ | .listByOrganization _ => none

/-- The id that a call gives to a new organization. -/
def newOrganization? : DirectoryCall → Option OrganizationId
  | .createOrganization _ _ _ new | .provisionOwner _ _ new => some new.id
  | .addUser .. | .findById _ | .findByEmail _ | .listByOrganization _ => none

end DirectoryCall

namespace Directory

/-- Nobody has the ids that a call gives. -/
def Unused (d : Directory) (c : DirectoryCall) : Prop :=
  (∀ u ∈ c.newUser?, d.users.find? u = none) ∧
    ∀ o ∈ c.newOrganization?, d.organizations.find? o = none

instance (d : Directory) (c : DirectoryCall) : Decidable (d.Unused c) := inferInstanceAs (Decidable (_ ∧ _))

/-- Whenever it comes to a call, nobody has the ids that it gives. -/
def UnusedFrom (d : Directory) : List DirectoryCall → Prop
  | [] => True
  | c :: calls => d.Unused c ∧ UnusedFrom (d.answer c).2 calls

instance decidableUnusedFrom (d : Directory) : (calls : List DirectoryCall) →
    Decidable (d.UnusedFrom calls)
  | [] => .isTrue trivial
  | c :: calls =>
    haveI := decidableUnusedFrom (d.answer c).2 calls
    inferInstanceAs (Decidable (_ ∧ _))

/-- The directory after calls, the first of them to an empty one. -/
def grown (calls : List DirectoryCall) : Directory := after (calls.map .call)

/-! ## Organizations as they grow -/

/-- There is one owner, and the organization names that one. All others are sub-accounts,
no more than there may be. -/
structure Staffed (d : Directory) (o : OrganizationId) (organization : Organization) : Prop where
  owner : ∃ p, (d.members o).filter (fun q => q.role = .owner) = [p] ∧ organization.owner = some p.id
  others : ∀ p ∈ d.members o, p.role ≠ .owner → p.role = .subAccount
  quota : (d.subAccounts o).length ≤ organization.maxSubAccounts.toNat

/-- Every organization of an orderly directory is staffed. -/
structure WellGrown (d : Directory) : Prop extends d.InOrder where
  staffed : ∀ o organization, d.organizations.find? o = some organization → d.Staffed o organization

theorem wellGrown_empty : WellGrown .empty where
  toInOrder := inOrder_empty
  staffed _ _ h := by cases h

variable {d : Directory}

/-- A user with a new id comes to the members of the user's organization. -/
theorem members_put {d' : Directory} {p : Principal} (hnew : d.users.find? p.id = none)
    (hput : d'.users = d.users.put p.id p) (o : OrganizationId) :
    d'.members o = if p.organization = o then p :: d.members o else d.members o := by
  have hvalues : d'.users.values = p :: d.users.values := by
    rw [hput, Keyed.values, Keyed.entries_put_of_find?_eq_none hnew]
    rfl
  rw [members, hvalues, List.filter_cons]
  by_cases h : p.organization = o <;> simp [Principal.belongsTo, members, h]

theorem members_eq_nil (h : d.InOrder) {o : OrganizationId} (hnone : d.organizations.find? o = none) :
    d.members o = [] := by
  refine List.filter_eq_nil_iff.mpr fun p hp hbelongs => ?_
  have hhome := h.homed p hp
  rw [show p.organization = o by simpa [Principal.belongsTo] using hbelongs, hnone] at hhome
  cases hhome

theorem staffed_congr {d' : Directory} {o : OrganizationId} {organization : Organization}
    (hmembers : d'.members o = d.members o) (h : d.Staffed o organization) :
    d'.Staffed o organization := by
  refine ⟨hmembers ▸ h.owner, hmembers ▸ h.others, ?_⟩
  unfold subAccounts
  rw [hmembers]
  exact h.quota

/-- A new organization has its owner for its one member. -/
theorem staffed_of_owner {new : NewOrganization} {name : String} (email ownerName : String)
    (hmembers : d.members new.id = [new.toOwner email ownerName]) :
    d.Staffed new.id (new.toOrganization name) := by
  refine ⟨⟨new.toOwner email ownerName, by rw [hmembers]; rfl, rfl⟩, fun p hp hrole => ?_, ?_⟩
  · rw [hmembers, List.mem_singleton] at hp
    subst hp
    exact absurd rfl hrole
  · rw [subAccounts, hmembers]
    exact Nat.zero_le _

/-- One more sub-account fits where there is room. -/
theorem staffed_of_subAccount {d' : Directory} {o : OrganizationId} {organization : Organization}
    {p : Principal} (h : d.Staffed o organization) (hrole : p.role = .subAccount)
    (hmembers : d'.members o = p :: d.members o)
    (hroom : (d.subAccounts o).length < organization.maxSubAccounts.toNat) :
    d'.Staffed o organization := by
  refine ⟨?_, fun q hq hq' => ?_, ?_⟩
  · rw [hmembers, List.filter_cons_of_neg (by simp [hrole])]
    exact h.owner
  · rw [hmembers] at hq
    rcases List.mem_cons.mp hq with rfl | hq
    · exact hrole
    · exact h.others q hq hq'
  · rw [subAccounts, hmembers, List.filter_cons_of_pos (by simp [hrole])]
    exact hroom

/-! ## Calls -/

theorem wellGrown_createOrganization (h : d.WellGrown) (name email ownerName : String)
    {new : NewOrganization} (huser : d.users.find? new.owner = none)
    (horganization : d.organizations.find? new.id = none) :
    WellGrown (d.createOrganization name email ownerName new).2 := by
  refine ⟨inOrder_turn h.toInOrder (.call (.createOrganization name email ownerName new)), ?_⟩
  rcases d.createOrganization_cases name email ownerName new with ⟨e, hcreate⟩ | ⟨-, hcreate⟩
  · rw [hcreate]
    exact h.staffed
  · rw [hcreate]
    intro o organization hfind
    change (d.organizations.put new.id (new.toOrganization name)).find? o = some organization at hfind
    rw [Keyed.find?_put] at hfind
    by_cases ho : o = new.id
    · subst ho
      rw [if_pos rfl, Option.some.injEq] at hfind
      subst hfind
      refine staffed_of_owner email ownerName ?_
      refine Eq.trans (members_put huser rfl new.id) ((if_pos rfl).trans (congrArg (List.cons _) ?_))
      exact members_eq_nil h.toInOrder horganization
    · rw [if_neg ho] at hfind
      refine staffed_congr ?_ (h.staffed o organization hfind)
      exact Eq.trans (members_put huser rfl o) (if_neg (Ne.symm ho))

theorem wellGrown_addUser (h : d.WellGrown) (o : OrganizationId) (email name : String)
    {new : NewUser} (huser : d.users.find? new.id = none) :
    WellGrown (d.addUser o email name new).2 := by
  refine ⟨inOrder_turn h.toInOrder (.call (.addUser o email name new)), ?_⟩
  rcases d.addUser_cases o email name new with ⟨e, hadd⟩ | ⟨-, ⟨organization, hfind, hroom⟩, hadd⟩
  · rw [hadd]
    exact h.staffed
  · rw [hadd]
    intro o' organization' hfind'
    have hstaffed := h.staffed o' organization' hfind'
    by_cases ho : o = o'
    · subst ho
      cases hfind.symm.trans hfind'
      refine staffed_of_subAccount (p := new.toSubAccount o email name) hstaffed rfl ?_ hroom
      exact Eq.trans (members_put huser rfl o) (if_pos rfl)
    · refine staffed_congr ?_ hstaffed
      exact Eq.trans (members_put huser rfl o') (if_neg ho)

theorem wellGrown_answer (h : d.WellGrown) {c : DirectoryCall} (hc : d.Unused c) :
    WellGrown (d.answer c).2 := by
  cases c with
  | findById | findByEmail | listByOrganization => exact h
  | createOrganization name email ownerName new =>
    exact wellGrown_createOrganization h name email ownerName (hc.1 _ rfl) (hc.2 _ rfl)
  | addUser o email name new => exact wellGrown_addUser h o email name (hc.1 _ rfl)
  | provisionOwner email name new =>
    exact wellGrown_createOrganization h name email name (hc.1 _ rfl) (hc.2 _ rfl)

theorem wellGrown_calls {calls : List DirectoryCall} (h : d.WellGrown) (hcalls : d.UnusedFrom calls) :
    WellGrown (calls.foldl (fun d c => (d.answer c).2) d) := by
  induction calls generalizing d with
  | nil => exact h
  | cons c calls ih => exact ih (wellGrown_answer h hcalls.1) hcalls.2

/-- After any calls, those that fail included, every organization has one owner, whom it
names, all its other members are sub-accounts, and there are no more of these than it may
have. -/
theorem organizations_stay_staffed {calls : List DirectoryCall} (h : UnusedFrom .empty calls)
    {o : OrganizationId} {organization : Organization}
    (hfind : (grown calls).organizations.find? o = some organization) :
    (grown calls).Staffed o organization := by
  have hgrown : grown calls = calls.foldl (fun d c => (d.answer c).2) .empty := by
    rw [grown, after, List.foldl_map]
    rfl
  rw [hgrown] at hfind ⊢
  exact (wellGrown_calls wellGrown_empty h).staffed o organization hfind

/-- An organization with one sub-account, and calls that are refused: for an email that is
taken and for an organization that is not there. -/
def acmeCalls : List DirectoryCall :=
  [.createOrganization "Acme" "olive@acme.org" "Olive" ⟨⟨.ofNat 1⟩, .epoch, ⟨.ofNat 2⟩, .epoch⟩,
   .addUser ⟨.ofNat 1⟩ "sam@acme.org" "Sam" ⟨⟨.ofNat 3⟩, .epoch⟩,
   .provisionOwner "sam@acme.org" "Sam" ⟨⟨.ofNat 4⟩, .epoch, ⟨.ofNat 5⟩, .epoch⟩,
   .addUser ⟨.ofNat 9⟩ "tom@acme.org" "Tom" ⟨⟨.ofNat 6⟩, .epoch⟩]

theorem acme_is_staffed :
    UnusedFrom .empty acmeCalls ∧ ∃ acme, (grown acmeCalls).organizations.find? ⟨.ofNat 1⟩ = some acme ∧
      (grown acmeCalls).Staffed ⟨.ofNat 1⟩ acme := by
  have h : UnusedFrom .empty acmeCalls := by decide
  exact ⟨h, _, rfl, organizations_stay_staffed h rfl⟩

end Directory

end TenantAuth
