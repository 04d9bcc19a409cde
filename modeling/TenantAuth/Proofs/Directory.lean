-- What a directory in memory may hold, and what it lists. Every user stands under its own
-- id and no two have one email, so the members of an organization come in one order only.

import Mathlib.Data.List.Sort
import TenantAuth.Directory.Store

namespace TenantAuth

/-! ## The order of members -/

namespace Timestamp

/-- Earlier by its second, or by what is behind it. -/
def Before (a b : Timestamp) : Prop := a.second < b.second ∨ a.second = b.second ∧ a.nanos < b.nanos

theorem not_before_self (a : Timestamp) : ¬ a.Before a := by
  unfold Before
  omega

theorem Before.trans {a b c : Timestamp} (h : a.Before b) (h' : b.Before c) : a.Before c := by
  unfold Before at *
  omega

theorem Before.asymm {a b : Timestamp} (h : a.Before b) : ¬ b.Before a := fun h' =>
  not_before_self a (h.trans h')

theorem before_trichotomy (a b : Timestamp) : a.Before b ∨ a = b ∨ b.Before a := by
  obtain ⟨second, nanos⟩ := a
  obtain ⟨second', nanos'⟩ := b
  simp only [Before, Timestamp.mk.injEq]
  omega

theorem le_iff_of_ne {a b : Timestamp} (h : a ≠ b) : a.le b = true ↔ a.Before b := by
  obtain ⟨second, nanos⟩ := a
  obtain ⟨second', nanos'⟩ := b
  simp only [ne_eq, Timestamp.mk.injEq] at h
  simp only [Timestamp.le, Before, Bool.or_eq_true, Bool.and_eq_true, decide_eq_true_eq,
    beq_iff_eq]
  omega

/-! ### Clock readings -/

theorem ofInstant_inj {t u : Instant} : ofInstant t = ofInstant u ↔ t = u := by
  constructor
  · intro h
    obtain ⟨n, _, _⟩ := t
    obtain ⟨n', _, _⟩ := u
    simp only [ofInstant, Timestamp.mk.injEq] at h
    simp only [Instant.mk.injEq]
    omega
  · rintro rfl
    rfl

theorem le_ofInstant (t u : Instant) : (ofInstant t).le (ofInstant u) = decide (t ≤ u) := by
  rw [Bool.eq_iff_iff, decide_eq_true_iff, Instant.le_def, Timestamp.le]
  simp only [Bool.or_eq_true, Bool.and_eq_true, decide_eq_true_eq, beq_iff_eq]
  simp only [ofInstant]
  omega

end Timestamp

namespace Principal

/-- Created earlier, or at the same time with an email that is smaller. -/
def Precedes (a b : Principal) : Prop :=
  a.createdAt.Before b.createdAt ∨ a.createdAt = b.createdAt ∧ a.email < b.email

theorem not_precedes_of_precedes {a b : Principal} (h : a.Precedes b) : ¬ b.Precedes a := by
  rcases h with h | ⟨heq, hemail⟩
  · rintro (h' | ⟨heq', -⟩)
    · exact h.asymm h'
    · exact a.createdAt.not_before_self (heq' ▸ h)
  · rintro (h' | ⟨-, hemail'⟩)
    · exact b.createdAt.not_before_self (heq ▸ h')
    · exact String.lt_irrefl _ (String.lt_trans hemail hemail')

end Principal

namespace Directory

theorem comesBefore_iff {a b : Principal} :
    comesBefore a b = true ↔
      a.createdAt.Before b.createdAt ∨ a.createdAt = b.createdAt ∧ a.email ≤ b.email := by
  unfold comesBefore
  by_cases h : a.createdAt = b.createdAt
  · rw [if_pos h, decide_eq_true_eq, h]
    simp [Timestamp.not_before_self]
  · rw [if_neg h, Timestamp.le_iff_of_ne h]
    simp [h]

theorem comesBefore_trans (a b c : Principal) (h : comesBefore a b = true)
    (h' : comesBefore b c = true) : comesBefore a c = true := by
  rw [comesBefore_iff] at *
  rcases h with h | ⟨heq, hemail⟩
  · rcases h' with h' | ⟨heq', -⟩
    · exact Or.inl (h.trans h')
    · exact Or.inl (heq' ▸ h)
  · rcases h' with h' | ⟨heq', hemail'⟩
    · exact Or.inl (heq ▸ h')
    · exact Or.inr ⟨heq.trans heq', String.le_trans hemail hemail'⟩

theorem comesBefore_total (a b : Principal) : (comesBefore a b || comesBefore b a) = true := by
  rw [Bool.or_eq_true, comesBefore_iff, comesBefore_iff]
  rcases a.createdAt.before_trichotomy b.createdAt with h | h | h
  · exact Or.inl (Or.inl h)
  · rcases String.le_total a.email b.email with hemail | hemail
    · exact Or.inl (Or.inr ⟨h, hemail⟩)
    · exact Or.inr (Or.inr ⟨h.symm, hemail⟩)
  · exact Or.inr (Or.inl h)

theorem precedes_of_comesBefore {a b : Principal} (h : comesBefore a b = true)
    (hemail : a.email ≠ b.email) : a.Precedes b := by
  rcases comesBefore_iff.mp h with h | ⟨heq, hle⟩
  · exact Or.inl h
  · refine Or.inr ⟨heq, String.not_le.mp fun hge => hemail (String.le_antisymm hle hge)⟩

/-! ## Calls that put users in -/

/-- The organization is there, and has fewer sub-accounts than it may have. -/
def HasRoom (d : Directory) (o : OrganizationId) : Prop :=
  ∃ organization, d.organizations.find? o = some organization ∧
    (d.subAccounts o).length < organization.maxSubAccounts.toNat

/-- Nobody has the email of somebody who is put in. -/
theorem addUser_cases (d : Directory) (o : OrganizationId) (email name : String) (new : NewUser) :
    (∃ e, d.addUser o email name new = (.error e, d)) ∨
      d.findByEmail? email = none ∧ d.HasRoom o ∧ d.addUser o email name new =
        (.ok (new.toSubAccount o email name), d.file (new.toSubAccount o email name)) := by
  unfold addUser
  cases d.findByEmail? email with
  | some p => exact Or.inl ⟨_, rfl⟩
  | none =>
    cases hfind : d.organizations.find? o with
    | none => exact Or.inl ⟨_, rfl⟩
    | some organization =>
      by_cases hfull : organization.maxSubAccounts.toNat ≤ (d.subAccounts o).length
      · exact Or.inl ⟨.fullOrganization o (d.subAccounts o).length, by simp only [if_pos hfull]⟩
      · exact Or.inr ⟨rfl, ⟨organization, hfind, Nat.lt_of_not_le hfull⟩, by simp only [if_neg hfull]⟩

theorem createOrganization_cases (d : Directory) (name email ownerName : String)
    (new : NewOrganization) :
    (∃ e, d.createOrganization name email ownerName new = (.error e, d)) ∨
      d.findByEmail? email = none ∧ d.createOrganization name email ownerName new =
        (.ok (new.toOrganization name, new.toOwner email ownerName),
          { d with organizations := d.organizations.put new.id (new.toOrganization name) }.file
            (new.toOwner email ownerName)) := by
  unfold createOrganization
  cases d.findByEmail? email with
  | some p => exact Or.inl ⟨_, rfl⟩
  | none => exact Or.inr ⟨rfl, rfl⟩

/-- Nobody else has the email of the principal. -/
def Free (d : Directory) (p : Principal) : Prop :=
  ∀ q ∈ d.users.values, q.email = p.email → q.id = p.id

theorem free_of_findByEmail? {d : Directory} {p : Principal} (h : d.findByEmail? p.email = none) :
    d.Free p := by
  intro q hq hemail
  have hother := List.find?_eq_none.mp h q hq
  exact absurd hemail (by simpa using hother)

/-- Somebody is put in whose email nobody else has, and whose organization is there or comes
in as well. -/
structure Filed (d d' : Directory) (p : Principal) : Prop where
  free : d.Free p
  users : d'.users = d.users.put p.id p
  organizations : (d.organizations.find? p.organization).isSome ∧ d'.organizations = d.organizations ∨
    ∃ o, o.id = p.organization ∧ d'.organizations = d.organizations.put o.id o

/-- All that a call can do: it leaves everything as it is, or it puts somebody in and does
not fail. -/
inductive Turned {α : Type} (d : Directory) : Except StoreError α × Directory → Prop
  | kept (reply : Except StoreError α) : Turned d (reply, d)
  | filed (a : α) {d' : Directory} {p : Principal} (h : d.Filed d' p) : Turned d (.ok a, d')

theorem turned_insert (d : Directory) (p : Principal) (now : Instant) : d.Turned (d.insert p now) := by
  unfold insert
  split
  · exact .kept _
  · next hfree =>
    refine .filed () ⟨fun q hq hemail => ?_, rfl, ?_⟩
    · by_contra hid
      exact hfree (List.any_eq_true.mpr ⟨q, hq, by simp [hemail, hid]⟩)
    · cases hfind : d.organizations.find? p.organization with
      | some o => exact Or.inl ⟨rfl, rfl⟩
      | none => exact Or.inr ⟨.fresh p.organization "" now, rfl, rfl⟩

theorem turned_createOrganization (d : Directory) (name email ownerName : String)
    (new : NewOrganization) : d.Turned (d.createOrganization name email ownerName new) := by
  rcases d.createOrganization_cases name email ownerName new with ⟨e, h⟩ | ⟨hnobody, h⟩
  · rw [h]
    exact .kept _
  · rw [h]
    exact .filed _ ⟨free_of_findByEmail? hnobody, rfl, Or.inr ⟨new.toOrganization name, rfl, rfl⟩⟩

theorem turned_addUser (d : Directory) (o : OrganizationId) (email name : String) (new : NewUser) :
    d.Turned (d.addUser o email name new) := by
  rcases d.addUser_cases o email name new with ⟨e, h⟩ | ⟨hnobody, ⟨organization, hfind, -⟩, h⟩
  · rw [h]
    exact .kept _
  · rw [h]
    exact .filed _ ⟨free_of_findByEmail? hnobody, rfl, Or.inl ⟨Option.isSome_of_eq_some hfind, rfl⟩⟩

theorem Turned.map {α β : Type} {d : Directory} {reply : Except StoreError α × Directory}
    (h : d.Turned reply) (f : α → β) : d.Turned (reply.1.map f, reply.2) := by
  cases h with
  | kept reply => exact .kept _
  | filed a h => exact .filed _ h

/-- All that a call can do to the users. -/
inductive Step (d d' : Directory) : Prop
  | kept (h : d'.users = d.users)
  | filed (p : Principal) (hfree : d.Free p) (h : d'.users = d.users.put p.id p)

theorem Turned.step {α : Type} {d : Directory} {reply : Except StoreError α × Directory}
    (h : d.Turned reply) : Step d reply.2 := by
  cases h with
  | kept => exact .kept rfl
  | filed _ h => exact .filed _ h.free h.users

/-! ## Directories as they come about -/

/-- The directory came about by calls that put users in. -/
inductive Reached : Directory → Prop
  | empty : Reached .empty
  | insert {d : Directory} (h : Reached d) (p : Principal) (now : Instant) :
      Reached (d.insert p now).2
  | createOrganization {d : Directory} (h : Reached d) (name ownerEmail ownerName : String)
      (new : NewOrganization) : Reached (d.createOrganization name ownerEmail ownerName new).2
  | addUser {d : Directory} (h : Reached d) (o : OrganizationId) (email name : String)
      (new : NewUser) : Reached (d.addUser o email name new).2

/-- Users stand under their own ids, and no two have one email. -/
structure Sound (d : Directory) : Prop where
  keyed : ∀ e ∈ d.users.entries, e.1 = e.2.id
  emails : ∀ p ∈ d.users.values, ∀ q ∈ d.users.values, p.email = q.email → p.id = q.id

theorem sound_step {d d' : Directory} (h : d.Sound) (hstep : Step d d') : d'.Sound := by
  cases hstep with
  | kept hkept => exact ⟨hkept ▸ h.keyed, hkept ▸ h.emails⟩
  | filed p hfree hfiled =>
    have hvalues : ∀ q ∈ d'.users.values, q = p ∨ q ∈ d.users.values := by
      intro q hq
      obtain ⟨e, he, rfl⟩ := List.mem_map.mp hq
      rw [hfiled, Keyed.mem_entries_put] at he
      rcases he with rfl | ⟨he, -⟩
      · exact Or.inl rfl
      · exact Or.inr (List.mem_map_of_mem he)
    refine ⟨fun e he => ?_, fun q hq q' hq' hemail => ?_⟩
    · rw [hfiled, Keyed.mem_entries_put] at he
      rcases he with rfl | ⟨he, -⟩
      · rfl
      · exact h.keyed e he
    · rcases hvalues q hq with rfl | hq
      · rcases hvalues q' hq' with rfl | hq'
        · rfl
        · exact (hfree q' hq' hemail.symm).symm
      · rcases hvalues q' hq' with rfl | hq'
        · exact hfree q hq hemail
        · exact h.emails q hq q' hq' hemail

theorem sound_of_reached {d : Directory} (h : d.Reached) : d.Sound := by
  induction h with
  | empty =>
    exact ⟨fun e he => absurd he List.not_mem_nil, fun p hp => absurd hp List.not_mem_nil⟩
  | insert h p now ih => exact sound_step ih (turned_insert _ p now).step
  | createOrganization h name ownerEmail ownerName new ih =>
    exact sound_step ih (turned_createOrganization _ name ownerEmail ownerName new).step
  | addUser h o email name new ih => exact sound_step ih (turned_addUser _ o email name new).step

/-! ## Lists of members -/

/-- Everybody of an organization, once each, in the order of members. -/
structure Lists (d : Directory) (o : OrganizationId) (members : List Principal) : Prop where
  nodup : members.Nodup
  mem_iff : ∀ p, p ∈ members ↔ p ∈ d.users.values ∧ p.organization = o
  ordered : members.Pairwise Principal.Precedes

namespace Sound

variable {d : Directory} (h : d.Sound)

include h

theorem mem_values_iff {p : Principal} : p ∈ d.users.values ↔ d.users.find? p.id = some p := by
  rw [Keyed.find?_eq_some_iff_of_keyed h.keyed, and_iff_left rfl]

theorem eq_of_email_eq {p q : Principal} (hp : p ∈ d.users.values) (hq : q ∈ d.users.values)
    (hemail : p.email = q.email) : p = q := by
  have hid := h.emails p hp q hq hemail
  rw [h.mem_values_iff] at hp hq
  rw [hid, hq] at hp
  exact (Option.some.inj hp).symm

theorem nodup_values : d.users.values.Nodup := by
  have hids : (d.users.values.map Principal.id).Nodup := by
    have hkeys : d.users.values.map Principal.id = d.users.entries.map (·.1) := by
      rw [Keyed.values, List.map_map]
      exact List.map_congr_left fun e he => (h.keyed e he).symm
    rw [hkeys]
    exact d.users.distinct
  exact hids.of_map

theorem lists_membersInOrder (o : OrganizationId) : d.Lists o (d.membersInOrder o) := by
  have hmem : ∀ p, p ∈ d.membersInOrder o ↔ p ∈ d.users.values ∧ p.organization = o := by
    intro p
    simp [membersInOrder, members, Principal.belongsTo]
  have hnodup : (d.membersInOrder o).Nodup :=
    (List.mergeSort_perm _ _).nodup_iff.mpr (h.nodup_values.filter _)
  refine ⟨hnodup, hmem, ?_⟩
  have hsorted := List.pairwise_mergeSort comesBefore_trans comesBefore_total (d.members o)
  refine (hsorted.and hnodup).imp_of_mem fun {p q} hp hq hboth => ?_
  obtain ⟨hbefore, hne⟩ := hboth
  refine precedes_of_comesBefore hbefore fun hemail => hne ?_
  exact h.eq_of_email_eq ((hmem p).mp hp).1 ((hmem q).mp hq).1 hemail

end Sound

/-- There is one list of members at most. -/
theorem lists_unique {d d' : Directory} {o : OrganizationId} {members members' : List Principal}
    (h : d.Lists o members) (h' : d'.Lists o members')
    (hsame : ∀ p, p.organization = o → (p ∈ d.users.values ↔ p ∈ d'.users.values)) :
    members = members' := by
  refine List.Perm.eq_of_pairwise
    (fun p q _ _ hpq hqp => absurd hqp (Principal.not_precedes_of_precedes hpq)) h.ordered
    h'.ordered ((List.perm_ext_iff_of_nodup h.nodup h'.nodup).mpr fun p => ?_)
  rw [h.mem_iff, h'.mem_iff]
  exact and_congr_left fun ho => hsame p ho

end Directory

end TenantAuth
