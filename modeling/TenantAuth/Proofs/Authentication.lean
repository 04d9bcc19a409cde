-- Who a request is from. The token and the directory decide together: neither alone lets
-- anybody in, and of the token only its user and its organization count.

import TenantAuth.Authentication
import TenantAuth.Proofs.Program

namespace TenantAuth

/-! ## Headers -/

theorem toList_bearer (token : String) :
    ("Bearer " ++ token).toList = bearerScheme ++ token.toList := by
  rw [String.toList_append]
  rfl

/-- The scheme, one space, and a token that is not empty and holds no space. -/
theorem bearerToken?_eq_some_iff {header token : String} :
    bearerToken? header = some token ↔
      header = "Bearer " ++ token ∧ token ≠ "" ∧ ' ' ∉ token.toList := by
  unfold bearerToken?
  constructor
  · intro h
    simp only [Option.ite_none_right_eq_some, Option.some.injEq] at h
    obtain ⟨⟨hfront, hne, hspace⟩, rfl⟩ := h
    have hheader : header.toList = bearerScheme ++ header.toList.drop bearerScheme.length :=
      (List.take_append_drop _ _).symm.trans (by rw [hfront])
    refine ⟨String.toList_inj.mp ?_, ?_, ?_⟩
    · rw [toList_bearer, String.toList_ofList]
      exact hheader
    · rw [ne_eq, ← String.toList_eq_nil_iff, String.toList_ofList]
      exact hne
    · rw [String.toList_ofList]
      exact hspace
  · rintro ⟨rfl, hne, hspace⟩
    simp only [toList_bearer, List.take_left, List.drop_left, String.ofList_toList]
    rw [if_pos ⟨trivial, by rwa [ne_eq, String.toList_eq_nil_iff], hspace⟩]

namespace Authentication

/-- The header shows a token that is accepted now, and the token makes these claims. -/
def Shows (signer : Signer) (header : Option String) (now : Instant) (c : Claims) : Prop :=
  ∃ token, header = some ("Bearer " ++ token) ∧ token ≠ "" ∧ ' ' ∉ token.toList ∧
    signer.verify token now = .ok c

section

variable {signer : Signer} {header : Option String} {now : Instant} {c c' : Claims}

theorem shows_iff :
    Shows signer header now c ↔
      ∃ token, header.bind bearerToken? = some token ∧ signer.verify token now = .ok c := by
  constructor
  · rintro ⟨token, rfl, hne, hspace, hverify⟩
    exact ⟨token, bearerToken?_eq_some_iff.mpr ⟨rfl, hne, hspace⟩, hverify⟩
  · rintro ⟨token, htoken, hverify⟩
    obtain ⟨text, rfl, htoken⟩ := Option.bind_eq_some_iff.mp htoken
    obtain ⟨rfl, hne, hspace⟩ := bearerToken?_eq_some_iff.mp htoken
    exact ⟨token, rfl, hne, hspace, hverify⟩

/-- A header makes one set of claims at most. -/
theorem shows_unique (h : Shows signer header now c) (h' : Shows signer header now c') : c = c' := by
  obtain ⟨token, htoken, hverify⟩ := shows_iff.mp h
  obtain ⟨token', htoken', hverify'⟩ := shows_iff.mp h'
  cases htoken.symm.trans htoken'
  cases hverify.symm.trans hverify'
  rfl

theorem exists_shows_iff (h : Shows signer header now c) {P : Claims → Prop} :
    (∃ c', Shows signer header now c' ∧ P c') ↔ P c := by
  constructor
  · rintro ⟨c', hc', hP⟩
    rwa [shows_unique h hc']
  · exact fun hP => ⟨c, h, hP⟩

theorem authenticate_of_shows (h : Shows signer header now c) :
    authenticate signer header now = principalOf c := by
  obtain ⟨token, htoken, hverify⟩ := shows_iff.mp h
  simp only [authenticate, htoken, hverify]

theorem authenticate_of_not_shows (h : ∀ c, ¬ Shows signer header now c) :
    authenticate signer header now = .done (.error .unauthenticated) := by
  unfold authenticate
  cases htoken : header.bind bearerToken? with
  | none => rfl
  | some token =>
    simp only
    cases hverify : signer.verify token now with
    | error e => rfl
    | ok c => exact absurd (shows_iff.mpr ⟨token, htoken, hverify⟩) (h c)

end

/-! ## The directory -/

/-- The call that looks up the user of some claims. -/
abbrev lookUp (c : Claims) : BackendCall := .directory (.findById c.user)

/-- What the directory says of the user of some claims, if it says anything. -/
def lookedUp {σ : Type} (answer : (b : BackendCall) → σ → Option b.Reply × σ) (w : σ) (c : Claims) :
    Option (Except StoreError (Option Principal)) :=
  (answer (lookUp c) w).1

/-- The verdict on claims, by what the directory says of their user. -/
def verdictOn (c : Claims) : Except StoreError (Option Principal) → Except AuthError Principal
  | .error f => .error f.toAuthError
  | .ok none => .error .unauthenticated
  | .ok (some p) => if p.organization = c.organization then .ok p else .error .unauthenticated

/-- The directory is asked once, and nothing else is. -/
theorem principalOf_eq (c : Claims) :
    principalOf c = .call (lookUp c) fun reply => .done (verdictOn c reply) := by
  refine congrArg (Program.call (lookUp c)) (funext fun reply => ?_)
  rcases reply with f | _ | p
  · rfl
  · rfl
  · exact (apply_ite Program.done _ _ _).symm

theorem toAuthError_ne_unauthenticated (f : StoreError) : f.toAuthError ≠ .unauthenticated := by
  cases f <;> exact nofun

theorem verdictOn_eq_ok_iff {c : Claims} {p : Principal}
    {reply : Except StoreError (Option Principal)} :
    verdictOn c reply = .ok p ↔ reply = .ok (some p) ∧ p.organization = c.organization := by
  rcases reply with f | _ | q
  · simp [verdictOn]
  · simp [verdictOn]
  · by_cases h : q.organization = c.organization
    · simp only [verdictOn, if_pos h, Except.ok.injEq, Option.some.injEq]
      exact ⟨fun heq => ⟨heq, heq ▸ h⟩, And.left⟩
    · simp only [verdictOn, if_neg h, reduceCtorEq, Except.ok.injEq, Option.some.injEq, false_iff]
      rintro ⟨rfl, heq⟩
      exact h heq

theorem verdictOn_eq_error_iff {c : Claims} {e : AuthError}
    {reply : Except StoreError (Option Principal)} :
    verdictOn c reply = .error e ∧ e ≠ .unauthenticated ↔
      ∃ f, reply = .error f ∧ e = f.toAuthError := by
  rcases reply with f | _ | q
  · simp only [verdictOn, Except.error.injEq, exists_eq_left']
    constructor
    · rintro ⟨rfl, -⟩
      rfl
    · rintro rfl
      exact ⟨rfl, toAuthError_ne_unauthenticated f⟩
  · simp [verdictOn, eq_comm]
  · by_cases h : q.organization = c.organization
    · simp [verdictOn, h]
    · simp [verdictOn, h, eq_comm]

theorem verdictOn_eq_unauthenticated_iff {c : Claims} {reply : Except StoreError (Option Principal)} :
    verdictOn c reply = .error .unauthenticated ↔
      reply = .ok none ∨ ∃ p, reply = .ok (some p) ∧ p.organization ≠ c.organization := by
  rcases reply with f | _ | q
  · simp [verdictOn, toAuthError_ne_unauthenticated]
  · simp [verdictOn]
  · by_cases h : q.organization = c.organization
    · simp [verdictOn, h]
    · simp [verdictOn, h]

/-! ## The law -/

/-- How a header is judged where the directory may say anything, fail, or never answer: what
is asked on the way, and the verdict. -/
structure Judged {σ : Type} (signer : Signer) (header : Option String) (now : Instant)
    (answer : (b : BackendCall) → σ → Option b.Reply × σ) (w : σ)
    (asked : List (Program.Asked BackendCall BackendCall.Reply))
    (verdict : Option (Except AuthError Principal)) : Prop where
  /-- Somebody is let in exactly if the token is accepted and the directory knows its user, in
  the organization of the token. -/
  admitted : ∀ p, verdict = some (.ok p) ↔
    ∃ c, Shows signer header now c ∧ lookedUp answer w c = some (.ok (some p)) ∧
      p.organization = c.organization
  /-- A failure of the directory is told from everything else. -/
  failed : ∀ e, verdict = some (.error e) ∧ e ≠ .unauthenticated ↔
    ∃ c, Shows signer header now c ∧
      ∃ f, lookedUp answer w c = some (.error f) ∧ e = f.toAuthError
  /-- All else is the same to the caller: no token, one that is not accepted, nobody of that
  id, or somebody of another organization. -/
  refused : verdict = some (.error .unauthenticated) ↔
    (∀ c, ¬ Shows signer header now c) ∨
    ∃ c, Shows signer header now c ∧ (lookedUp answer w c = some (.ok none) ∨
      ∃ p, lookedUp answer w c = some (.ok (some p)) ∧ p.organization ≠ c.organization)
  /-- Only a directory that never answers keeps the verdict away. -/
  pending : verdict = none ↔ ∃ c, Shows signer header now c ∧ lookedUp answer w c = none
  /-- The directory is asked behind a token that is accepted, for its user, and once. -/
  consulted : ∀ c, Shows signer header now c → asked = [⟨lookUp c, lookedUp answer w c⟩]
  spared : (∀ c, ¬ Shows signer header now c) → asked = []

section

variable {σ : Type} {signer : Signer} {header : Option String} {now : Instant}
  {answer : (b : BackendCall) → σ → Option b.Reply × σ} {w : σ}

theorem judged_of_not_shows (h : ∀ c, ¬ Shows signer header now c) :
    Judged signer header now answer w [] (some (.error .unauthenticated)) where
  admitted p := by simp [h]
  failed e := by simp [h, eq_comm]
  refused := by simp [h]
  pending := by simp [h]
  consulted c hc := absurd hc (h c)
  spared _ := rfl

theorem judged_of_shows {c : Claims} (h : Shows signer header now c) :
    Judged signer header now answer w [⟨lookUp c, lookedUp answer w c⟩]
      ((lookedUp answer w c).map (verdictOn c)) where
  admitted p := by
    rw [exists_shows_iff h]
    cases lookedUp answer w c with
    | none => simp
    | some reply => simp [verdictOn_eq_ok_iff]
  failed e := by
    rw [exists_shows_iff h]
    cases lookedUp answer w c with
    | none => simp
    | some reply => simp [verdictOn_eq_error_iff]
  refused := by
    have hsome : ¬ ∀ c, ¬ Shows signer header now c := fun hnobody => hnobody c h
    rw [exists_shows_iff h]
    cases lookedUp answer w c with
    | none => simp [hsome]
    | some reply => simp [verdictOn_eq_unauthenticated_iff, hsome]
  pending := by
    rw [exists_shows_iff h, Option.map_eq_none_iff]
  consulted c' hc' := by rw [shows_unique h hc']
  spared hnobody := absurd h (hnobody c)

end

theorem token_and_directory_decide {σ : Type} (signer : Signer) (header : Option String)
    (now : Instant) (answer : (b : BackendCall) → σ → Option b.Reply × σ) (w : σ) :
    Judged signer header now answer w ((authenticate signer header now).asked answer w)
      ((authenticate signer header now).run answer w).1 := by
  by_cases h : ∃ c, Shows signer header now c
  · obtain ⟨c, h⟩ := h
    have hjudged : Judged signer header now answer w _ _ := judged_of_shows h
    rw [authenticate_of_shows h, principalOf_eq]
    rcases hreply : answer (lookUp c) w with ⟨_ | reply, w'⟩
    · rw [lookedUp, hreply] at hjudged
      rw [Program.asked_call_none hreply, Program.run_call_none hreply]
      exact hjudged
    · rw [lookedUp, hreply] at hjudged
      rw [Program.asked_call_some hreply, Program.run_call_some hreply]
      exact hjudged
  · have hnobody := not_exists.mp h
    rw [authenticate_of_not_shows hnobody]
    exact judged_of_not_shows hnobody

end Authentication

end TenantAuth
