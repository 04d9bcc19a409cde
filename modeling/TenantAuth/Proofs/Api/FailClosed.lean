-- A gate that should compare organizations and is given none lets nobody pass, and one that
-- should not takes no notice of any. Whoever is kept out gets the same answer for every cause.

import TenantAuth.Proofs.Api.Gates

namespace TenantAuth.Api

open TenantAuth.Http

namespace Gate

variable {g : Gate} {principal : Option Principal} {target : Option OrganizationId}

/-! ## What a gate decides -/

/-- The verdict of a gate on a principal, for each organization that a request may be about,
and for requests that are about none. -/
structure Decides (g : Gate) (p : Principal) : Prop where
  untargeted : g.sameOrganization = true → g.check p none = .error .organizationMismatch
  targeted : g.sameOrganization = true →
    ∀ o, g.check p (some o) = g.roles.authorize p g.requirement (some o)
  unscoped : g.sameOrganization = false →
    ∀ target, g.check p target = g.roles.authorize p g.requirement none
  passes_iff : ∀ target, g.check p target = .ok () ↔
    g.requirement.MetBy (g.roles.entitlement p) ∧
      (g.sameOrganization = true → target = some p.organization)

theorem decides (g : Gate) (p : Principal) : g.Decides p where
  untargeted hscoped := by simp only [check, if_pos hscoped]
  targeted hscoped o := by simp only [check, if_pos hscoped]
  unscoped hopen target := by simp [check, hopen]
  passes_iff _ := check_eq_ok_iff

/-! ## What becomes of a request -/

/-- The answer at the gate to a request that comes no further. -/
def refusal? (g : Gate) (principal : Option Principal) (target : Option OrganizationId) :
    Option Response :=
  match principal with
  | none => some Answer.unauthorized
  | some p => if g.check p target = .ok () then none else some Answer.forbidden

theorem enforce_eq (g : Gate) (principal : Option Principal) (target : Option OrganizationId)
    (inner : Handler Response) :
    g.enforce principal target inner =
      match g.refusal? principal target with
      | none => inner
      | some response => pure response := by
  cases principal with
  | none => rfl
  | some p =>
    by_cases hcheck : g.check p target = .ok ()
    · rw [enforce_of_ok hcheck, refusal?, if_pos hcheck]
    · rw [enforce_of_ne hcheck, refusal?, if_neg hcheck]

/-- The request gets to what is behind the gate, whatever that is. -/
def Admits (g : Gate) (principal : Option Principal) (target : Option OrganizationId) : Prop :=
  ∀ inner, g.enforce principal target inner = inner

/-- The request is answered at the gate, and nothing behind it is run. -/
def Answers (g : Gate) (principal : Option Principal) (target : Option OrganizationId)
    (response : Response) : Prop :=
  ∀ inner, g.enforce principal target inner = pure response

-- A gate that runs what is behind it is told from one that does not by a handler that
-- breaks down: no answer at the gate is that.

theorem admits_iff_refusal? : g.Admits principal target ↔ g.refusal? principal target = none := by
  unfold Admits
  simp only [enforce_eq]
  cases g.refusal? principal target with
  | none => simp
  | some response =>
    refine iff_of_false (fun hadmits => ?_) (Option.some_ne_none response)
    cases hadmits Program.broken

theorem answers_iff_refusal? {response : Response} :
    g.Answers principal target response ↔ g.refusal? principal target = some response := by
  unfold Answers
  simp only [enforce_eq]
  cases g.refusal? principal target with
  | none =>
    refine iff_of_false (fun hanswers => ?_) (Option.some_ne_none response).symm
    cases hanswers Program.broken
  | some answer =>
    rw [Option.some.injEq]
    refine ⟨fun hanswers => ?_, fun heq inner => by rw [heq]⟩
    cases hanswers Program.broken
    rfl

/-- A request that shows a principal, which does not pass. -/
def Denies (g : Gate) (principal : Option Principal) (target : Option OrganizationId) : Prop :=
  ∃ p, principal = some p ∧ g.check p target ≠ .ok ()

theorem forbidden_ne_unauthorized : Answer.forbidden ≠ Answer.unauthorized := by
  intro heq
  have hstatus : (403 : Nat) = 401 := congrArg Response.status heq
  omega

theorem answers_unauthorized_iff :
    g.Answers principal target Answer.unauthorized ↔ principal = none := by
  rw [answers_iff_refusal?]
  cases principal with
  | none => simp [refusal?]
  | some p => simp [refusal?, forbidden_ne_unauthorized]

theorem answers_forbidden_iff :
    g.Answers principal target Answer.forbidden ↔ g.Denies principal target := by
  rw [answers_iff_refusal?]
  unfold Denies
  cases principal with
  | none => simp [refusal?, forbidden_ne_unauthorized.symm]
  | some p => simp [refusal?]

theorem admits_iff :
    g.Admits principal target ↔ ∃ p, principal = some p ∧ g.check p target = .ok () := by
  rw [admits_iff_refusal?]
  cases principal with
  | none => simp [refusal?]
  | some p => simp [refusal?]

/-- What becomes of the requests to a gate. The answers at the gate are the same for all
gates, whoever is refused and for whatever cause. -/
structure Screens (g : Gate) : Prop where
  runs_iff : ∀ principal target,
    g.Admits principal target ↔ ∃ p, principal = some p ∧ g.check p target = .ok ()
  unauthorized_iff : ∀ principal target,
    g.Answers principal target (.json 401 (.object [("error", .string "unauthorized")])) ↔
      principal = none
  forbidden_iff : ∀ principal target,
    g.Answers principal target (.json 403 (.object [("error", .string "forbidden")])) ↔
      g.Denies principal target

end Gate

/-- A gate decides as the table does, about the organization of the request if it should
compare that and about none if not; a request that names none is refused where it should.
What is behind the gate runs for the principals that pass and for nobody else. Two requests
that are denied cannot be told apart: whatever the gates ask for, whoever sends them and
whatever they would have done, the same is answered and nothing else happens. -/
theorem gates_fail_closed_and_refuse_alike (g : Gate) :
    (∀ p, g.Decides p) ∧ g.Screens ∧
      ∀ (g' : Gate) (principal principal' : Option Principal) (target target' : Option OrganizationId)
        (inner inner' : Handler Response), g.Denies principal target → g'.Denies principal' target' →
        g.enforce principal target inner = g'.enforce principal' target' inner' := by
  refine ⟨g.decides, ?_, ?_⟩
  · exact ⟨fun _ _ => Gate.admits_iff, fun _ _ => Gate.answers_unauthorized_iff,
      fun _ _ => Gate.answers_forbidden_iff⟩
  · intro g' principal principal' target target' inner inner' hdenied hdenied'
    have hanswers := Gate.answers_forbidden_iff.mpr hdenied
    have hanswers' := Gate.answers_forbidden_iff.mpr hdenied'
    rw [hanswers inner, hanswers' inner']

/-- An owner may invite into her own organization. -/
def homeOwner : Principal :=
  .fresh ⟨.ofNat 1⟩ ⟨.ofNat 2⟩ "ann@example.org" "Ann" .owner .epoch

/-- Somebody who may only read. -/
def reader : Principal :=
  .fresh ⟨.ofNat 3⟩ ⟨.ofNat 2⟩ "bob@example.org" "Bob" .subAccount .epoch

/-- The owner is let in at home. Abroad, and where no organization is named, she is told what
a reader is told at a gate of another kind, whoever waits behind the gates. -/
theorem owners_abroad_and_readers_are_refused_alike :
    let inviting : Gate := ⟨.standard, .all [.inviteUser], true⟩
    let founding : Gate := ⟨.standard, .any [.createOrganization, .deleteOrganization], false⟩
    inviting.Admits (some homeOwner) (some ⟨.ofNat 2⟩) ∧
      ∀ inner inner',
        inviting.enforce (some homeOwner) (some ⟨.ofNat 4⟩) inner =
          founding.enforce (some reader) (some ⟨.ofNat 2⟩) inner' ∧
        inviting.enforce (some homeOwner) none inner =
          founding.enforce (some reader) none inner' := by
  intro inviting founding
  obtain ⟨-, hscreens, halike⟩ := gates_fail_closed_and_refuse_alike inviting
  have habroad : inviting.Denies (some homeOwner) (some ⟨.ofNat 4⟩) := ⟨_, rfl, by decide⟩
  have hnowhere : inviting.Denies (some homeOwner) none := ⟨_, rfl, by decide⟩
  have hreader : ∀ target, founding.Denies (some reader) target := by
    intro target
    refine ⟨_, rfl, ?_⟩
    rw [(founding.decides reader).unscoped rfl target]
    decide
  refine ⟨(hscreens.runs_iff _ _).mpr ⟨_, rfl, by decide⟩, fun inner inner' => ⟨?_, ?_⟩⟩
  · exact halike founding _ _ _ _ inner inner' habroad (hreader _)
  · exact halike founding _ _ _ _ inner inner' hnowhere (hreader _)

end TenantAuth.Api
