-- Whatever is listed or decided about a principal is read off one set, its entitlement: the
-- permissions listed for it or for its role, the verdict on each requirement, what a target
-- adds to that, and what it is told about itself.

import TenantAuth.Proofs.Authorization
import TenantAuth.Proofs.Api.Gates

namespace TenantAuth

/-! ## What a role is granted -/

namespace RoleTable

variable {t : RoleTable} {p : Principal}

theorem lists_permissionsOf (t : RoleTable) (r : Role) :
    Permission.Lists (t.permissionsOf r) {q | t.grants r q = true} := by
  have hlists := Permission.lists_sort (Permission.nodup_eraseDups (t.row r))
  exact ⟨fun q => (hlists.mem q).trans (List.mem_eraseDups.trans grants_iff.symm), hlists.ordered⟩

theorem permissionsHeld_eq_iff {l : List Permission} :
    t.permissionsHeld p = l ↔ Permission.Lists l (t.entitlement p) := by
  constructor
  · rintro rfl
    exact t.lists_permissionsHeld p
  · exact Permission.lists_unique (t.lists_permissionsHeld p)

theorem permissionsOf_eq_iff {r : Role} {l : List Permission} :
    t.permissionsOf r = l ↔ Permission.Lists l {q | t.grants r q = true} := by
  constructor
  · rintro rfl
    exact t.lists_permissionsOf r
  · exact Permission.lists_unique (t.lists_permissionsOf r)

end RoleTable

/-! ## What principals are told about themselves -/

namespace Api

open TenantAuth.Http

/-- A permission is asked for by itself, in either way. -/
def Gate.Requires (g : Gate) (q : Permission) : Prop :=
  g.requirement = .all [q] ∨ g.requirement = .any [q]

/-- A gate that asks for one permission lets through who is entitled to it, and who is of the
organization that it compares with, if it does. -/
theorem check_of_requires {g : Gate} {p : Principal} {q : Permission} {target : Option OrganizationId}
    (h : g.Requires q) :
    g.check p target = .ok () ↔
      q ∈ g.roles.entitlement p ∧ (g.sameOrganization = true → target = some p.organization) := by
  rw [check_eq_ok_iff]
  rcases h with h | h <;> simp [h, Requirement.MetBy]

theorem mem_map_toJson_iff {q : Permission} {l : List Permission} :
    q.toJson ∈ l.map Permission.toJson ↔ q ∈ l := by
  refine ⟨fun h => ?_, List.mem_map_of_mem⟩
  obtain ⟨q', hq', hjson⟩ := List.mem_map.mp h
  rw [Permission.toJson, Permission.toJson, Json.string.injEq] at hjson
  rwa [← Permission.name_inj hjson]

/-- The service tells a principal a list of permissions. -/
def Tells (s : Service) (p : Principal) (listed : List (Json String)) : Prop :=
  ∃ fields, s.whoami p = .done (.json 200 (.object fields)) ∧
    fields.lookup "permissions" = some (.array listed)

theorem tells_iff {s : Service} {p : Principal} {listed : List (Json String)} :
    Tells s p listed ↔ listed = (s.roles.permissionsHeld p).map Permission.toJson := by
  constructor
  · rintro ⟨fields, hwhoami, hlookup⟩
    cases hwhoami
    simpa [List.lookup_cons] using hlookup.symm
  · rintro rfl
    exact ⟨_, rfl, by simp [List.lookup_cons]⟩

end Api

namespace RoleTable

/-- Whatever a table says about a principal says whether a permission is among those that the
principal is entitled to, or which of those asked for are not. -/
structure DecidesBy (t : RoleTable) (p : Principal) (e : Set Permission) : Prop where
  held : ∀ l, t.permissionsHeld p = l ↔ Permission.Lists l e
  granted : ∀ r l, t.permissionsOf r = l ↔ Permission.Lists l {q | t.grants r q = true}
  holds_iff : ∀ q, t.holds p q = true ↔ q ∈ e
  holdsAll_iff : ∀ ps, t.holdsAll p ps = true ↔ {q | q ∈ ps} ⊆ e
  holdsAny_iff : ∀ ps, t.holdsAny p ps = true ↔ ({q | q ∈ ps} ∩ e).Nonempty
  all_ok : ∀ ps, t.satisfies p (.all ps) = .ok () ↔ {q | q ∈ ps} ⊆ e
  all_missing : ∀ before q after, {q' | q' ∈ before} ⊆ e → q ∉ e →
    t.satisfies p (.all (before ++ q :: after)) = .error (.forbidden q.name)
  any_ok : ∀ ps, t.satisfies p (.any ps) = .ok () ↔ ({q | q ∈ ps} ∩ e).Nonempty
  any_missing : ∀ ps, ¬ ({q | q ∈ ps} ∩ e).Nonempty →
    t.satisfies p (.any ps) = .error (.forbidden ("|".intercalate (ps.map Permission.name)))
  foreign : ∀ requirement o, o ≠ p.organization →
    t.authorize p requirement (some o) = .error .organizationMismatch
  home : ∀ requirement target, (∀ o ∈ target, o = p.organization) →
    t.authorize p requirement target = t.satisfies p requirement

theorem decidesBy_entitlement (t : RoleTable) (p : Principal) : t.DecidesBy p (t.entitlement p) where
  held _ := permissionsHeld_eq_iff
  granted _ _ := permissionsOf_eq_iff
  holds_iff _ := RoleTable.holds_iff
  holdsAll_iff _ := RoleTable.holdsAll_iff
  holdsAny_iff _ := RoleTable.holdsAny_iff
  all_ok _ := satisfies_all_iff
  all_missing _ _ _ hbefore hq := satisfies_all_of_missing hbefore hq
  any_ok _ := satisfies_any_iff
  any_missing _ hnone := satisfies_any_of_missing fun q hq hentitled => hnone ⟨q, hq, hentitled⟩
  foreign _ _ hne := authorize_of_ne hne
  home _ _ htarget := authorize_of_home htarget

/-- All decisions about a principal are questions about its entitlement. So the permissions
that it is told are those that a gate, which asks for one of them alone, lets it through
with: at an organization of its own, where the gate compares that. -/
theorem decisions_are_read_off_the_entitlement (t : RoleTable) (p : Principal) :
    t.DecidesBy p (t.entitlement p) ∧
      ∀ s : Api.Service, s.roles = t → ∃ listed, Api.Tells s p listed ∧
        ∀ (g : Api.Gate) (q : Permission) (target : Option OrganizationId),
          g.roles = t → g.Requires q → (g.sameOrganization = true → target = some p.organization) →
          (q.toJson ∈ listed ↔ g.check p target = .ok ()) := by
  refine ⟨t.decidesBy_entitlement p, ?_⟩
  rintro s rfl
  refine ⟨_, Api.tells_iff.mpr rfl, fun g q target hroles hrequires htarget => ?_⟩
  have hheld := (s.roles.lists_permissionsHeld p).mem q
  rw [Api.mem_map_toJson_iff, hheld, Api.check_of_requires hrequires, hroles]
  exact (and_iff_left htarget).symm

/-- A table in which the admins are given a second row. -/
def restricted : RoleTable :=
  ⟨[(.admin, Permission.all), (.owner, Permission.all), (.admin, [.readOrganization])]⟩

/-- An admin with one override that names a permission, and one that nearly does. -/
def restrictedAdmin : Principal :=
  { Principal.fresh ⟨.ofNat 1⟩ ⟨.ofNat 2⟩ "ann@example.org" "Ann" .admin .epoch with
    overrides := .ofList ["invite:user", "Delete:Org"] }

theorem a_second_row_replaces_the_first :
    Permission.Lists [.readOrganization, .inviteUser] (restricted.entitlement restrictedAdmin) ∧
      restricted.satisfies restrictedAdmin
        (.all ([.inviteUser, .inviteUser] ++ .deleteOrganization :: [.createOrganization])) =
          .error (.forbidden "delete:org") ∧
      restricted.satisfies restrictedAdmin (.any []) = .error (.forbidden "") ∧
      ∀ s : Api.Service, s.roles = restricted → ∃ listed, Api.Tells s restrictedAdmin listed ∧
        (Permission.inviteUser.toJson ∈ listed ↔
          Api.Gate.check ⟨restricted, .any [.inviteUser], true⟩ restrictedAdmin (some ⟨.ofNat 2⟩) =
            .ok ()) := by
  obtain ⟨hdecides, htold⟩ := decisions_are_read_off_the_entitlement restricted restrictedAdmin
  have hlists : Permission.Lists [.readOrganization, .inviteUser]
      (restricted.entitlement restrictedAdmin) := (hdecides.held _).mp (by decide)
  refine ⟨hlists, hdecides.all_missing _ _ _ ?_ ?_, hdecides.any_missing [] (by simp), ?_⟩
  · intro q hq
    obtain rfl : q = .inviteUser := by simpa using hq
    exact (hlists.mem _).mp (by decide)
  · exact fun h => absurd ((hlists.mem _).mpr h) (by decide)
  · intro s hs
    obtain ⟨listed, htells, hgate⟩ := htold s hs
    exact ⟨listed, htells, hgate _ _ _ rfl (Or.inr rfl) fun _ => rfl⟩

end RoleTable

end TenantAuth
