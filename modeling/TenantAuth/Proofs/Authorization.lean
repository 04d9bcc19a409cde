-- What a principal is entitled to is a set: what the last row of its role names, and what
-- its overrides name. Every decision is a question about that set, so more overrides never
-- take anything away, and nothing else about a principal counts.

import Mathlib.Data.List.Sort
import Mathlib.Data.Set.Basic
import TenantAuth.Authorization

namespace TenantAuth

/-! ## Lists of permissions -/

namespace Permission

/-- The list holds just the permissions of a set, in the order in which they are declared
and without repeats. -/
structure Lists (l : List Permission) (e : Set Permission) : Prop where
  mem : ∀ q, q ∈ l ↔ q ∈ e
  ordered : l.Pairwise fun a b => a.ctorIdx < b.ctorIdx

theorem lists_filter_all (holds : Permission → Bool) :
    Lists (all.filter holds) {q | holds q = true} where
  mem q := by simp [mem_all]
  ordered := by
    have hall : all.Pairwise fun a b => a.ctorIdx < b.ctorIdx := by decide
    exact hall.filter holds

/-- What is left of a list without its repeats has none. -/
theorem nodup_eraseDups : ∀ ps : List Permission, ps.eraseDups.Nodup
  | [] => List.nodup_nil
  | p :: ps => by
    rw [List.eraseDups_cons, List.nodup_cons]
    refine ⟨fun hp => ?_, nodup_eraseDups _⟩
    simpa using List.mem_eraseDups.mp hp
termination_by ps => ps.length
decreasing_by exact Nat.lt_succ_of_le (List.length_filter_le _ _)

theorem rank_eq (q : Permission) : q.rank = q.ctorIdx := by cases q <;> rfl

theorem ctorIdx_inj {q q' : Permission} (h : q.ctorIdx = q'.ctorIdx) : q = q' := by
  cases q <;> cases q' <;> first | rfl | cases h

theorem lists_sort {ps : List Permission} (h : ps.Nodup) : Lists (sort ps) {q | q ∈ ps} where
  mem _ := List.mem_mergeSort
  ordered := by
    have hsorted : (sort ps).Pairwise fun a b => decide (a.rank ≤ b.rank) = true :=
      List.pairwise_mergeSort (by simpa using fun _ _ _ => Nat.le_trans)
        (by simpa using fun a b : Permission => Nat.le_total a.rank b.rank) ps
    have hnodup : (sort ps).Nodup := (List.mergeSort_perm ps _).nodup_iff.mpr h
    refine (hsorted.and hnodup).imp ?_
    rintro a b ⟨hle, hne⟩
    rw [decide_eq_true_eq, rank_eq, rank_eq] at hle
    exact Nat.lt_of_le_of_ne hle fun heq => hne (ctorIdx_inj heq)

/-- There is one such list of a set. -/
theorem lists_unique {l l' : List Permission} {e : Set Permission} (h : Lists l e)
    (h' : Lists l' e) : l = l' := by
  have hnodup : ∀ {k : List Permission}, Lists k e → k.Nodup := fun hk =>
    hk.ordered.imp fun hlt heq => absurd (congrArg Permission.ctorIdx heq) (Nat.ne_of_lt hlt)
  have hperm : l.Perm l' := by
    rw [List.perm_ext_iff_of_nodup (hnodup h) (hnodup h')]
    exact fun q => (h.mem q).trans (h'.mem q).symm
  exact hperm.eq_of_pairwise (fun a b _ _ hab hba => absurd hab (Nat.lt_asymm hba)) h.ordered
    h'.ordered

theorem name_inj {q q' : Permission} (h : q.name = q'.name) : q = q' := by
  cases q <;> cases q' <;> first | rfl | exact absurd h (by decide)

end Permission

/-- What a requirement asks for is in the set. -/
def Requirement.MetBy (entitled : Set Permission) : Requirement → Prop
  | all ps => ∀ q ∈ ps, q ∈ entitled
  | any ps => ∃ q ∈ ps, q ∈ entitled

theorem Requirement.MetBy.mono {entitled entitled' : Set Permission} {requirement : Requirement}
    (hmet : requirement.MetBy entitled) (h : entitled ⊆ entitled') :
    requirement.MetBy entitled' := by
  cases requirement with
  | all ps => exact fun q hq => h (hmet q hq)
  | any ps =>
    obtain ⟨q, hq, hentitled⟩ := hmet
    exact ⟨q, hq, h hentitled⟩

/-! ## What a principal is entitled to -/

namespace RoleTable

variable {t t' : RoleTable} {p p' : Principal}

/-- The table has this row for the role, and none for it comes later. -/
def IsLastRow (t : RoleTable) (r : Role) (ps : List Permission) : Prop :=
  ∃ before after, t.rows = before ++ (r, ps) :: after ∧ ∀ row ∈ after, row.1 ≠ r

/-- What the last row of the role names, and every permission whose name is an override. -/
def entitlement (t : RoleTable) (p : Principal) : Set Permission :=
  {q | (∃ ps, t.IsLastRow p.role ps ∧ q ∈ ps) ∨ q.name ∈ p.overrides}

theorem find?_reverse_rows {r : Role} {ps : List Permission} :
    (∃ r', t.rows.reverse.find? (fun row => row.1 = r) = some (r', ps)) ↔ t.IsLastRow r ps := by
  simp only [List.find?_eq_some_iff_append, decide_eq_true_eq, Bool.not_eq_true',
    decide_eq_false_iff_not]
  constructor
  · rintro ⟨_, rfl, later, earlier, hrows, hlater⟩
    refine ⟨earlier.reverse, later.reverse, ?_, fun row hrow => ?_⟩
    · rw [← List.reverse_reverse t.rows, hrows]
      simp
    · exact hlater row (List.mem_reverse.mp hrow)
  · rintro ⟨before, after, hrows, hafter⟩
    refine ⟨r, rfl, after.reverse, before.reverse, by simp [hrows], fun row hrow => ?_⟩
    exact hafter row (List.mem_reverse.mp hrow)

theorem mem_row_iff {r : Role} {q : Permission} :
    q ∈ t.row r ↔ ∃ ps, t.IsLastRow r ps ∧ q ∈ ps := by
  simp only [← find?_reverse_rows, row]
  cases t.rows.reverse.find? fun row => row.1 = r with
  | none => simp
  | some found =>
    obtain ⟨r', ps⟩ := found
    simp only [Option.map_some, Option.getD_some, Option.some.injEq, Prod.mk.injEq]
    exact ⟨fun hq => ⟨ps, ⟨r', rfl, rfl⟩, hq⟩, fun ⟨_, ⟨_, _, heq⟩, hq⟩ => heq ▸ hq⟩

theorem grants_iff {r : Role} {q : Permission} : t.grants r q = true ↔ q ∈ t.row r := by
  simp [grants]

theorem holds_iff {q : Permission} : t.holds p q = true ↔ q ∈ t.entitlement p := by
  simp [holds, grants_iff, mem_row_iff, entitlement, Principal.hasOverride]

theorem not_holds_iff {q : Permission} : t.holds p q = false ↔ q ∉ t.entitlement p := by
  rw [← holds_iff, Bool.not_eq_true]

theorem lists_permissionsHeld (t : RoleTable) (p : Principal) :
    Permission.Lists (t.permissionsHeld p) (t.entitlement p) := by
  have hlists := Permission.lists_filter_all (t.holds p)
  exact ⟨fun q => (hlists.mem q).trans holds_iff, hlists.ordered⟩

/-! ## Requirements -/

theorem satisfies_all_iff {ps : List Permission} :
    t.satisfies p (.all ps) = .ok () ↔ ∀ q ∈ ps, q ∈ t.entitlement p := by
  simp only [satisfies, ← holds_iff]
  cases hfind : ps.find? fun q => !t.holds p q with
  | none => simpa using hfind
  | some missing =>
    have hmissing := List.find?_some hfind
    simp only [reduceCtorEq, false_iff, not_forall]
    exact ⟨missing, List.mem_of_find?_eq_some hfind, by simpa using hmissing⟩

/-- The first permission that is missing is named. -/
theorem satisfies_all_of_missing {before after : List Permission} {q : Permission}
    (hbefore : ∀ q' ∈ before, q' ∈ t.entitlement p) (hq : q ∉ t.entitlement p) :
    t.satisfies p (.all (before ++ q :: after)) = .error (.forbidden q.name) := by
  have hfind : (before ++ q :: after).find? (fun q' => !t.holds p q') = some q := by
    rw [List.find?_eq_some_iff_append]
    refine ⟨by simpa using not_holds_iff.mpr hq, before, after, rfl, fun q' hq' => ?_⟩
    simpa using holds_iff.mpr (hbefore q' hq')
  simp only [satisfies, hfind]

theorem holdsAll_iff {ps : List Permission} :
    t.holdsAll p ps = true ↔ ∀ q ∈ ps, q ∈ t.entitlement p := by
  simp only [holdsAll, List.all_eq_true, holds_iff]

theorem holdsAny_iff {ps : List Permission} :
    t.holdsAny p ps = true ↔ ∃ q ∈ ps, q ∈ t.entitlement p := by
  simp only [holdsAny, List.any_eq_true, holds_iff]

theorem satisfies_any_iff {ps : List Permission} :
    t.satisfies p (.any ps) = .ok () ↔ ∃ q ∈ ps, q ∈ t.entitlement p := by
  rw [← holdsAny_iff, satisfies]
  cases t.holdsAny p ps <;> simp

/-- All that would have done are named. -/
theorem satisfies_any_of_missing {ps : List Permission} (h : ∀ q ∈ ps, q ∉ t.entitlement p) :
    t.satisfies p (.any ps) =
      .error (.forbidden ("|".intercalate (ps.map Permission.name))) := by
  have hnone : ¬ t.holdsAny p ps = true := by
    rw [holdsAny_iff]
    rintro ⟨q, hq, hentitled⟩
    exact h q hq hentitled
  rw [satisfies, if_neg hnone]

theorem satisfies_iff {requirement : Requirement} :
    t.satisfies p requirement = .ok () ↔ requirement.MetBy (t.entitlement p) := by
  cases requirement with
  | all ps => exact satisfies_all_iff
  | any ps => exact satisfies_any_iff

/-- Whoever is entitled to more is not refused. -/
theorem satisfies_mono (h : t.entitlement p ⊆ t'.entitlement p') {requirement : Requirement}
    (hok : t.satisfies p requirement = .ok ()) : t'.satisfies p' requirement = .ok () := by
  rw [satisfies_iff] at hok ⊢
  exact hok.mono h

theorem satisfies_congr (h : t.entitlement p = t'.entitlement p') (requirement : Requirement) :
    t.satisfies p requirement = t'.satisfies p' requirement := by
  have hholds : t.holds p = t'.holds p' := by
    funext q
    rw [Bool.eq_iff_iff, holds_iff, holds_iff, h]
  cases requirement with
  | all ps => simp only [satisfies, hholds]
  | any ps => rw [satisfies, satisfies, holdsAny, hholds, ← holdsAny]

/-! ## Targets -/

/-- A target that is another organization than that of the principal. -/
theorem authorize_of_ne {requirement : Requirement} {o : OrganizationId} (h : o ≠ p.organization) :
    t.authorize p requirement (some o) = .error .organizationMismatch := by
  have hother : p.belongsTo o = false := by simpa [Principal.belongsTo] using h.symm
  simp [authorize, hother]

theorem authorize_of_home {requirement : Requirement} {target : Option OrganizationId}
    (h : ∀ o ∈ target, o = p.organization) :
    t.authorize p requirement target = t.satisfies p requirement := by
  cases target with
  | none => rfl
  | some o =>
    obtain rfl := h o rfl
    simp [authorize, Principal.belongsTo]

theorem authorize_eq_ok_iff {requirement : Requirement} {target : Option OrganizationId} :
    t.authorize p requirement target = .ok () ↔
      requirement.MetBy (t.entitlement p) ∧ ∀ o ∈ target, o = p.organization := by
  by_cases htarget : ∀ o ∈ target, o = p.organization
  · rw [authorize_of_home htarget, satisfies_iff]
    exact (and_iff_left htarget).symm
  · refine iff_of_false (fun hok => htarget fun o ho => ?_) fun h => htarget h.2
    obtain rfl : target = some o := ho
    by_contra hne
    rw [authorize_of_ne hne] at hok
    cases hok

end RoleTable

/-! ## What counts about a principal -/

/-- The principals have one role and one organization, and their overrides name the same
permissions, whatever else these say. -/
structure Principal.SameStanding (p p' : Principal) : Prop where
  role : p.role = p'.role
  organization : p.organization = p'.organization
  overrides : ∀ q : Permission, q.name ∈ p.overrides ↔ q.name ∈ p'.overrides

namespace RoleTable

theorem entitlement_of_sameStanding (t : RoleTable) {p p' : Principal} (h : p.SameStanding p') :
    t.entitlement p = t.entitlement p' := by
  ext q
  simp only [entitlement, Set.mem_ofPred_eq, h.role, h.overrides q]

theorem entitlement_mono {t t' : RoleTable} {p : Principal} {overrides : TextSet}
    (hoverrides : ∀ x ∈ p.overrides, x ∈ overrides)
    (hrow : ∀ q ∈ t.row p.role, q ∈ t'.row p.role) :
    t.entitlement p ⊆ t'.entitlement { p with overrides } := by
  rintro q (hgranted | hoverride)
  · exact Or.inl (mem_row_iff.mp (hrow q (mem_row_iff.mpr hgranted)))
  · exact Or.inr (hoverrides _ hoverride)

/-- Who is let through is let through with more overrides of any kind, and under a table
that grants the role more. What is decided, and for which reason, is the same for everybody
of one standing. -/
theorem rights_only_add_up (t : RoleTable) (p : Principal) (requirement : Requirement)
    (target : Option OrganizationId) :
    (∀ (t' : RoleTable) (overrides : TextSet), (∀ x ∈ p.overrides, x ∈ overrides) →
      (∀ q ∈ t.row p.role, q ∈ t'.row p.role) → t.authorize p requirement target = .ok () →
      t'.authorize { p with overrides } requirement target = .ok ()) ∧
    ∀ p' : Principal, p.SameStanding p' →
      t.authorize p requirement target = t.authorize p' requirement target := by
  by_cases htarget : ∀ o ∈ target, o = p.organization
  · refine ⟨fun t' overrides hoverrides hrow hok => ?_, fun p' h => ?_⟩
    · rw [authorize_of_home htarget] at hok
      rw [authorize_of_home (p := { p with overrides }) htarget]
      exact satisfies_mono (entitlement_mono hoverrides hrow) hok
    · rw [authorize_of_home htarget, authorize_of_home fun o ho => (htarget o ho).trans h.organization]
      exact satisfies_congr (t.entitlement_of_sameStanding h) requirement
  · -- A foreign target refuses everybody of that organization, whatever they hold.
    simp only [not_forall] at htarget
    obtain ⟨o, rfl : target = some o, hne⟩ := htarget
    refine ⟨fun t' overrides _ _ hok => ?_, fun p' h => ?_⟩
    · rw [authorize_of_ne hne] at hok
      cases hok
    · rw [authorize_of_ne hne, authorize_of_ne (h.organization ▸ hne)]

/-- A sub-account that may also invite. -/
def inviter : Principal :=
  { Principal.fresh ⟨.ofNat 1⟩ ⟨.ofNat 2⟩ "ann@example.org" "Ann" .subAccount .epoch with
    overrides := .ofList ["invite:user"] }

/-- Somebody else of the same organization, whose overrides miss the names of permissions by
a blank or a letter, but for one. -/
def otherInviter : Principal :=
  { Principal.fresh ⟨.ofNat 3⟩ ⟨.ofNat 2⟩ "bob@example.org" "Bob" .subAccount .epoch with
    overrides := .ofList ["Create:Org", " delete:org", "invite:user", "owner"] }

theorem inviters_are_treated_alike :
    inviter.SameStanding otherInviter ∧
      standard.authorize inviter (.all [.readOrganization, .inviteUser]) (some ⟨.ofNat 2⟩) = .ok () ∧
      standard.authorize { inviter with overrides := otherInviter.overrides }
        (.all [.readOrganization, .inviteUser]) (some ⟨.ofNat 2⟩) = .ok () ∧
      standard.authorize inviter (.any [.createOrganization, .deleteOrganization]) none =
        standard.authorize otherInviter (.any [.createOrganization, .deleteOrganization]) none := by
  have hsame : inviter.SameStanding otherInviter := ⟨rfl, rfl, fun q => by cases q <;> decide⟩
  have hok : standard.authorize inviter (.all [.readOrganization, .inviteUser])
      (some ⟨.ofNat 2⟩) = .ok () := by decide
  refine ⟨hsame, hok, ?_, ?_⟩
  · exact (rights_only_add_up standard inviter _ _).1 standard otherInviter.overrides
      (by decide) (fun q hq => hq) hok
  · exact (rights_only_add_up standard inviter _ none).2 otherInviter hsame

end RoleTable

end TenantAuth
