-- Logins, one request after the other. Whatever comes of a callback, the state that it
-- presents is used up; so no state leads to the identity provider, or to tokens, twice.

import TenantAuth.Proofs.Api.Callback
import TenantAuth.Proofs.Api.Effects
import TenantAuth.Proofs.LoginState

namespace TenantAuth.Api

open TenantAuth.Http

/-- The reply says of a state that it still worked. -/
def Call.honours : (c : Call BackendCall) → Option (c.Reply BackendCall.Reply) → Bool
  | .consumeState .., some worked => worked
  | _, _ => false

theorem Call.honours_of_not_entry {c : Call BackendCall} (h : ¬ c.Entry)
    (reply : Option (c.Reply BackendCall.Reply)) : c.honours reply = false := by
  cases c <;> first | rfl | exact absurd trivial h

namespace Turn

variable {W : Type} (t : Turn W)

/-- How many states were taken back that still worked. -/
def honoured : Nat := t.asked.countP fun a => a.call.honours a.reply

/-- How many callbacks were answered with tokens: one or none. -/
def admitted : Nat :=
  if Leg.callback.Takes t.request ∧ t.response.map Response.status = some 200 then 1 else 0

end Turn

section

variable {rest : List Asked} (h : ∀ a ∈ rest, ¬ a.call.Entry)

include h

theorem honoured_of_not_entry : rest.countP (fun a => a.call.honours a.reply) = 0 :=
  List.countP_eq_zero.mpr fun a ha => by simp [Call.honours_of_not_entry (h a ha)]

theorem exchanges_of_not_entry : rest.countP (fun a => a.call.exchanges) = 0 :=
  List.countP_eq_zero.mpr fun a ha => by simp [Call.exchanges_of_not_entry (h a ha)]

end

section

variable {W S : Type}

/-- The state that was presented is gone; behind the reply to it stands what was asked next. -/
structure Burnt (o : Surroundings W S) (w : W) (r : Request) (t : Turn W) (state : String)
    (now : Instant) (worked : Bool) (rest : List Asked) : Prop where
  presents : Presents r state
  asked : t.asked = ⟨.clock, some now⟩ :: ⟨.consumeState state now, some worked⟩ :: rest
  worked : (LoginStates.consume state now (o.states w)).1 = worked
  states : o.states t.after = (LoginStates.consume state now (o.states w)).2

/-- What can come of one leg of a login. -/
inductive Course (o : Surroundings W S) (s : Service) (w : W) (r : Request) (t : Turn W) : Prop
  /-- A login without a provider, or without chance. -/
  | unissued (hleg : Leg.login.Takes r) (hasked : ∀ a ∈ t.asked, ¬ a.call.Entry)
      (hstates : o.states t.after = o.states w)
  | issued (state : String) (now : Instant) (hleg : Leg.login.Takes r)
      (hasked : t.asked = [⟨.newLoginState, some state⟩, ⟨.clock, some now⟩,
        ⟨.fileState state s.stateLifetime now, some ()⟩])
      (hstates : o.states t.after = (o.states w).file state s.stateLifetime now)
  /-- A callback without a state. -/
  | unread (hleg : Leg.callback.Takes r) (hstate : state? r = none) (hasked : t.asked = [])
      (hstates : o.states t.after = o.states w)
      (hstatus : t.response.map Response.status = some 400)
  | refused (state : String) (now : Instant) (h : Burnt o w r t state now false [])
      (hresponse : t.response = some invalidState) (hstores : o.stores t.after = o.stores w)
  /-- The state works, but there is no code, or no provider. -/
  | stopped (state : String) (now : Instant) (h : Burnt o w r t state now true [])
      (hmissing : code? r = none ∨ s.provider = none)
      (hstatus : t.response.map Response.status ≠ some 200)
  | exchanged (state : String) (now : Instant) (code : String)
      (reply : Option (Except AuthError Identity)) (rest : List Asked)
      (h : Burnt o w r t state now true (⟨.exchange code, reply⟩ :: rest))
      (hcode : code? r = some code) (hprovider : s.provider.isSome)
      (hrest : ∀ a ∈ rest, ¬ a.call.Entry)

namespace Surroundings

variable (o : Surroundings W S)

/-- The clock and the states of logins never fail. -/
theorem consumed (w : W) (state : String) :
    ∃ now w₁ w₂, o.answer .clock w = (some now, w₁) ∧
      o.answer (.consumeState state now) w₁ =
        (some (LoginStates.consume state now (o.states w)).1, w₂) ∧
      o.states w₂ = (LoginStates.consume state now (o.states w)).2 ∧
      o.stores w₂ = o.stores w := by
  obtain ⟨now, hnow⟩ := o.clock_goes w
  have hkept : o.states (o.answer .clock w).2 = o.states w := o.keeps_states .clock w id
  have hstores : o.stores (o.answer .clock w).2 = o.stores w := o.keeps_stores .clock w id
  obtain ⟨hreply, hstates⟩ := o.consumes state now (o.answer .clock w).2
  rw [hkept] at hreply hstates
  refine ⟨now, _, _, Prod.ext hnow rfl, Prod.ext hreply rfl, hstates, ?_⟩
  rw [o.keeps_stores (.consumeState state now) _ id, hstores]

theorem filed (w : W) (state : String) (ttl : Nat) :
    ∃ now w₁ w₂, o.answer .clock w = (some now, w₁) ∧
      o.answer (.fileState state ttl now) w₁ = (some (), w₂) ∧
      o.states w₂ = (o.states w).file state ttl now := by
  obtain ⟨now, hnow⟩ := o.clock_goes w
  have hkept : o.states (o.answer .clock w).2 = o.states w := o.keeps_states .clock w id
  obtain ⟨hreply, hstates⟩ := o.files state ttl now (o.answer .clock w).2
  rw [hkept] at hstates
  exact ⟨now, _, _, Prod.ext hnow rfl, Prod.ext hreply rfl, hstates⟩

/-- What asks for nothing of the entry leaves the states as they are. -/
theorem states_of_avoids {p : Handler Response} (h : p.Avoids Call.Entry) (w : W) :
    o.states (p.run o.answer w).2 = o.states w := by
  exact Program.view_run_of_avoids (fun c w hc => o.keeps_states c w (mt Call.entry_of_ofStates hc))
    h w

end Surroundings

variable {o : Surroundings W S} {s : Service} {w : W} {r : Request}

theorem course_of_login (h : Leg.login.Takes r) : Course o s w r (o.turn s w r) := by
  rw [Surroundings.turn, s.serve_login h]
  cases hprovider : s.provider with
  | none =>
    rw [s.login_of_no_provider hprovider, o.play_done]
    exact .unissued h (by simp) rfl
  | some provider =>
    rw [s.login_of_provider hprovider]
    have hkept := o.keeps_states .newLoginState w id
    rcases hreply : o.answer .newLoginState w with ⟨_ | state, w₁⟩
    · rw [hreply] at hkept
      rw [o.play_call_none hreply]
      exact .unissued h (by simp [Call.Entry]) hkept
    · rw [hreply] at hkept
      obtain ⟨now, w₂, w₃, hclock, hfile, hstates⟩ := o.filed w₁ state s.stateLifetime
      rw [o.play_call_some hreply, o.play_call_some hclock, o.play_call_some hfile, o.play_done]
      exact .issued state now h rfl (hstates.trans (by rw [hkept]))

theorem course_of_callback (h : Leg.callback.Takes r) : Course o s w r (o.turn s w r) := by
  rw [Surroundings.turn, s.serve_callback h]
  cases hstate : state? r with
  | none =>
    obtain ⟨response, hcallback, hstatus⟩ := s.callback_of_no_state hstate
    rw [hcallback, o.play_done]
    exact .unread h hstate rfl rfl (congrArg some hstatus)
  | some state =>
    obtain ⟨now, w₁, w₂, hclock, hconsume, hstates, hstores⟩ := o.consumed w state
    rw [s.callback_of_state hstate, o.play_call_some hclock, o.play_call_some hconsume]
    cases hworked : (LoginStates.consume state now (o.states w)).1 with
    | false => exact .refused state now ⟨⟨h, hstate⟩, rfl, hworked, hstates⟩ rfl hstores
    | true =>
      simp only [if_true, Service.redeem]
      cases hcode : code? r with
      | none =>
        exact .stopped state now ⟨⟨h, hstate⟩, rfl, hworked, hstates⟩ (Or.inl hcode) (by rintro ⟨⟩)
      | some code =>
        cases hprovider : s.provider with
        | none =>
          exact .stopped state now ⟨⟨h, hstate⟩, rfl, hworked, hstates⟩ (Or.inr hprovider)
            (by rintro ⟨⟩)
        | some provider =>
          have hkept := o.keeps_states (.exchange code) w₂ id
          rcases hreply : o.answer (.exchange code) w₂ with ⟨_ | identity, w₃⟩
          · rw [hreply, hstates] at hkept
            simp only
            rw [o.play_call_none hreply]
            exact .exchanged state now code none [] ⟨⟨h, hstate⟩, rfl, hworked, hkept⟩ hcode
              (by simp [hprovider]) (by simp)
          · rw [hreply, hstates] at hkept
            simp only
            rw [o.play_call_some hreply]
            have havoids := s.avoids_identified identity
            exact .exchanged state now code (some identity) _
              ⟨⟨h, hstate⟩, rfl, hworked, (o.states_of_avoids havoids w₃).trans hkept⟩ hcode
              (by simp [hprovider]) (Program.not_asked_of_avoids havoids w₃)

theorem course (h : OfLogin r) : Course o s w r (o.turn s w r) := by
  obtain ⟨leg, h⟩ := h
  cases leg with
  | login => exact course_of_login h
  | callback => exact course_of_callback h

/-! ## What one leg uses up -/

variable {t : Turn W} {state : String}

namespace Burnt

variable {now : Instant} {worked : Bool} {rest : List Asked}

theorem honoured_eq (h : Burnt o w r t state now worked rest)
    (hrest : rest.countP (fun a => a.call.honours a.reply) = 0) : t.honoured = worked.toNat := by
  rw [Turn.honoured, h.asked, List.countP_cons, List.countP_cons, hrest]
  cases worked <;> rfl

/-- Once the provider is asked the states are left alone. -/
theorem honoured_of_exchanged {code : String} {reply : Option (Except AuthError Identity)}
    (h : Burnt o w r t state now true (⟨.exchange code, reply⟩ :: rest))
    (hrest : ∀ a ∈ rest, ¬ a.call.Entry) : t.honoured = 1 := by
  refine h.honoured_eq ?_
  rw [List.countP_cons, honoured_of_not_entry hrest]
  rfl

theorem exchanges_of_exchanged {code : String} {reply : Option (Except AuthError Identity)}
    (h : Burnt o w r t state now true (⟨.exchange code, reply⟩ :: rest))
    (hrest : ∀ a ∈ rest, ¬ a.call.Entry) : t.exchanges = 1 := by
  rw [Turn.exchanges, h.asked, List.countP_cons, List.countP_cons, List.countP_cons,
    exchanges_of_not_entry hrest]
  rfl

theorem absent (h : Burnt o w r t state now worked rest) :
    (o.states t.after).find? state = none := by
  rw [h.states]
  exact (Keyed.find?_erase ..).trans (if_pos rfl)

theorem add_size_le (h : Burnt o w r t state now worked rest) :
    worked.toNat + (o.states t.after).size ≤ (o.states w).size := by
  rw [h.states, ← h.worked]
  exact LoginStates.consume_add_size_le state now (o.states w)

end Burnt

namespace Course

variable (h : Course o s w r t)

include h

/-- How far a state leads: nowhere, to a callback that lacks something, or to the provider. -/
theorem presented (hpresents : Presents r state) :
    ∃ now, (Burnt o w r t state now false [] ∧ t.response = some invalidState ∧
        o.stores t.after = o.stores w) ∨
      (Burnt o w r t state now true [] ∧ (code? r = none ∨ s.provider = none)) ∨
      ∃ code reply rest, Burnt o w r t state now true (⟨.exchange code, reply⟩ :: rest) ∧
        ∀ a ∈ rest, ¬ a.call.Entry := by
  cases h with
  | unissued hleg hasked hstates => cases Leg.takes_unique hleg hpresents.1
  | issued state' now hleg hasked hstates => cases Leg.takes_unique hleg hpresents.1
  | unread hleg hstate hasked hstates hstatus => cases hstate.symm.trans hpresents.2
  | refused state' now hburnt hresponse hstores =>
    cases hburnt.presents.2.symm.trans hpresents.2
    exact ⟨now, Or.inl ⟨hburnt, hresponse, hstores⟩⟩
  | stopped state' now hburnt hmissing hstatus =>
    cases hburnt.presents.2.symm.trans hpresents.2
    exact ⟨now, Or.inr (Or.inl ⟨hburnt, hmissing⟩)⟩
  | exchanged state' now code reply rest hburnt hcode hprovider hrest =>
    cases hburnt.presents.2.symm.trans hpresents.2
    exact ⟨now, Or.inr (Or.inr ⟨code, reply, rest, hburnt, hrest⟩)⟩

theorem absent_of_presents (hpresents : Presents r state) :
    (o.states t.after).find? state = none := by
  obtain ⟨now, ⟨hburnt, -⟩ | ⟨hburnt, -⟩ | ⟨code, reply, rest, hburnt, -⟩⟩ := h.presented hpresents
  · exact hburnt.absent
  · exact hburnt.absent
  · exact hburnt.absent

/-- A state that is presented is taken back first, and leads on if it works and nothing else
is missing. -/
theorem taken (hpresents : Presents r state) :
    ∃ now rest, t.asked = ⟨.clock, some now⟩ ::
        ⟨.consumeState state now, some (LoginStates.consume state now (o.states w)).1⟩ :: rest ∧
      ((LoginStates.consume state now (o.states w)).1 = true → (code? r).isSome →
        s.provider.isSome → t.exchanges = 1) := by
  obtain ⟨now, ⟨hburnt, -⟩ | ⟨hburnt, hmissing⟩ | ⟨code, reply, rest, hburnt, hrest⟩⟩ :=
    h.presented hpresents
  · refine ⟨now, [], hburnt.worked ▸ hburnt.asked, fun hworks => ?_⟩
    exact absurd (hburnt.worked.symm.trans hworks) Bool.false_ne_true
  · refine ⟨now, [], hburnt.worked ▸ hburnt.asked, fun _ hcode hprovider => ?_⟩
    rcases hmissing with hmissing | hmissing
    · simp [hmissing] at hcode
    · simp [hmissing] at hprovider
  · exact ⟨now, _, hburnt.worked ▸ hburnt.asked, fun _ _ _ => hburnt.exchanges_of_exchanged hrest⟩

/-- A state that is not out gets a callback nowhere. -/
theorem refused_of_absent (hpresents : Presents r state)
    (hnone : (o.states w).find? state = none) :
    t.response = some invalidState ∧ o.stores t.after = o.stores w ∧
      ∃ now, t.asked = [⟨.clock, some now⟩, ⟨.consumeState state now, some false⟩] := by
  have hworks : ∀ {now rest}, ¬ Burnt o w r t state now true rest := fun hburnt =>
    Bool.false_ne_true ((LoginStates.consume_of_absent hnone _).symm.trans hburnt.worked)
  obtain ⟨now, ⟨hburnt, hresponse, hstores⟩ | ⟨hburnt, -⟩ | ⟨code, reply, rest, hburnt, -⟩⟩ :=
    h.presented hpresents
  · exact ⟨hresponse, hstores, now, hburnt.asked⟩
  · exact absurd hburnt hworks
  · exact absurd hburnt hworks

/-- What is not out is out later only if it was handed out. -/
theorem absent_of_absent (hissued : state ∉ t.issued) (hnone : (o.states w).find? state = none) :
    (o.states t.after).find? state = none := by
  have hconsume : ∀ state' now,
      (LoginStates.consume state' now (o.states w)).2.find? state = none := by
    intro state' now
    refine (Keyed.find?_erase ..).trans ?_
    rw [hnone, ite_self]
  cases h with
  | unissued hleg hasked hstates => rwa [hstates]
  | issued state' now hleg hasked hstates =>
    have hne : state ≠ state' := by simpa [Turn.issued, hasked, Call.issued?] using hissued
    rw [hstates, LoginStates.file, Keyed.find?_put, if_neg hne, hnone]
  | unread hleg hstate hasked hstates hstatus => rwa [hstates]
  | refused state' now hburnt hresponse hstores => rw [hburnt.states, hconsume]
  | stopped state' now hburnt hmissing hstatus => rw [hburnt.states, hconsume]
  | exchanged state' now code reply rest hburnt hcode hprovider hrest =>
    rw [hburnt.states, hconsume]

theorem exchanges_le_honoured : t.exchanges ≤ t.honoured := by
  cases h with
  | unissued hleg hasked hstates =>
    rw [Turn.exchanges, exchanges_of_not_entry hasked]
    exact Nat.zero_le _
  | issued state now hleg hasked hstates => simp [Turn.exchanges, hasked, Call.exchanges]
  | unread hleg hstate hasked hstates hstatus => simp [Turn.exchanges, hasked]
  | refused state now hburnt hresponse hstores =>
    simp [Turn.exchanges, hburnt.asked, Call.exchanges]
  | stopped state now hburnt hmissing hstatus => simp [Turn.exchanges, hburnt.asked, Call.exchanges]
  | exchanged state now code reply rest hburnt hcode hprovider hrest =>
    rw [hburnt.exchanges_of_exchanged hrest, hburnt.honoured_of_exchanged hrest]

theorem admitted_le_honoured (hrequest : t.request = r) : t.admitted ≤ t.honoured := by
  have hnone : ¬ (Leg.callback.Takes t.request ∧ t.response.map Response.status = some 200) →
      t.admitted ≤ t.honoured := by
    intro hneither
    rw [Turn.admitted, if_neg hneither]
    exact Nat.zero_le _
  have hone : t.admitted ≤ 1 := by
    unfold Turn.admitted
    split <;> simp
  rw [hrequest] at hnone
  cases h with
  | unissued hleg hasked hstates =>
    exact hnone fun hadmitted => by cases Leg.takes_unique hleg hadmitted.1
  | issued state now hleg hasked hstates =>
    exact hnone fun hadmitted => by cases Leg.takes_unique hleg hadmitted.1
  | unread hleg hstate hasked hstates hstatus =>
    exact hnone fun hadmitted => by cases hstatus.symm.trans hadmitted.2
  | refused state now hburnt hresponse hstores =>
    exact hnone fun hadmitted => by
      rw [hresponse] at hadmitted
      cases hadmitted.2
  | stopped state now hburnt hmissing hstatus => exact hnone fun hadmitted => hstatus hadmitted.2
  | exchanged state now code reply rest hburnt hcode hprovider hrest =>
    rwa [hburnt.honoured_of_exchanged hrest]

/-- A state that is honoured is one less that is out. -/
theorem honoured_add_size_le :
    t.honoured + (o.states t.after).size ≤ (o.states w).size + t.issued.length := by
  cases h with
  | unissued hleg hasked hstates =>
    rw [Turn.honoured, honoured_of_not_entry hasked, hstates]
    omega
  | issued state now hleg hasked hstates =>
    have hfile := LoginStates.size_file_le state s.stateLifetime now (o.states w)
    simp only [Turn.honoured, Turn.issued, hasked, hstates]
    simpa [Call.honours, Call.issued?] using hfile
  | unread hleg hstate hasked hstates hstatus =>
    rw [Turn.honoured, hasked, hstates, List.countP_nil]
    omega
  | refused state now hburnt hresponse hstores =>
    have hsize := hburnt.add_size_le
    rw [hburnt.honoured_eq List.countP_nil]
    omega
  | stopped state now hburnt hmissing hstatus =>
    have hsize := hburnt.add_size_le
    rw [hburnt.honoured_eq List.countP_nil]
    omega
  | exchanged state now code reply rest hburnt hcode hprovider hrest =>
    have hsize := hburnt.add_size_le
    rw [hburnt.honoured_of_exchanged hrest]
    rw [Bool.toNat_true] at hsize
    omega

/-- The identity provider is asked behind a state that works, and for the code that came
with it. -/
theorem earned {before since : List Asked} {a : Asked} {code : String}
    (hsplit : t.asked = before ++ a :: since) (hcall : a.call = .exchange code) :
    code? r = some code ∧ s.provider.isSome ∧ ∃ state now, Presents r state ∧
      (LoginStates.consume state now (o.states w)).1 = true ∧
      before = [⟨.clock, some now⟩, ⟨.consumeState state now, some true⟩] := by
  have hmem : a ∈ t.asked := by simp [hsplit]
  have hentry : a.call.Entry := by
    rw [hcall]
    trivial
  cases h with
  | unissued hleg hasked hstates => exact absurd hentry (hasked a hmem)
  | issued state now hleg hasked hstates =>
    simp only [hasked, List.mem_cons, List.not_mem_nil, or_false] at hmem
    rcases hmem with rfl | rfl | rfl <;> cases hcall
  | unread hleg hstate hasked hstates hstatus =>
    rw [hasked] at hmem
    cases hmem
  | refused state now hburnt hresponse hstores =>
    simp only [hburnt.asked, List.mem_cons, List.not_mem_nil, or_false] at hmem
    rcases hmem with rfl | rfl <;> cases hcall
  | stopped state now hburnt hmissing hstatus =>
    simp only [hburnt.asked, List.mem_cons, List.not_mem_nil, or_false] at hmem
    rcases hmem with rfl | rfl <;> cases hcall
  | exchanged state now code' reply rest hburnt hcode hprovider hrest =>
    rw [hburnt.asked] at hsplit
    rcases before with _ | ⟨first, _ | ⟨second, _ | ⟨third, before⟩⟩⟩
    all_goals simp only [List.nil_append, List.cons_append, List.cons.injEq] at hsplit
    · obtain ⟨rfl, -⟩ := hsplit
      cases hcall
    · obtain ⟨-, rfl, -⟩ := hsplit
      cases hcall
    · obtain ⟨rfl, rfl, rfl, -⟩ := hsplit
      cases hcall
      exact ⟨hcode, hprovider, state, now, hburnt.presents, hburnt.worked, rfl⟩
    · obtain ⟨-, -, -, rfl⟩ := hsplit
      exact absurd hentry (hrest a (by simp))

end Course

end

/-! ## One leg after the other -/

namespace Surroundings

variable {W S : Type} (o : Surroundings W S) (s : Service)

/-- The states that are out at first, and those that are handed out on the way. -/
def issued (w : W) (rs : List Request) : List String :=
  (o.states w).entries.map (·.1) ++ (o.turns s w rs).flatMap Turn.issued

/-- No login handed out the state, or a callback presented it and no login handed it out
again since. -/
def Spent (w : W) (past : List Request) (state : String) : Prop :=
  state ∉ o.issued s w past ∨
  ∃ before r since, past = before ++ r :: since ∧ Presents r state ∧
    state ∉ (o.turns s (o.after s w (before ++ [r])) since).flatMap Turn.issued

variable {o s} {w : W} {rs : List Request}

theorem length_issued :
    (o.issued s w rs).length =
      (o.states w).size + ((o.turns s w rs).flatMap Turn.issued).length := by
  rw [issued, List.length_append, List.length_map]
  rfl

section

variable (h : ∀ r ∈ rs, OfLogin r)

include h

theorem course_of_mem_turns {t : Turn W} (ht : t ∈ o.turns s w rs) :
    ∃ w' r, t.request = r ∧ Course o s w' r t := by
  induction rs generalizing w with
  | nil => cases ht
  | cons r rs ih =>
    rw [List.forall_mem_cons] at h
    rcases List.mem_cons.mp ht with rfl | ht
    · exact ⟨w, r, rfl, course h.1⟩
    · exact ih h.2 ht

theorem absent_after {state : String}
    (hissued : state ∉ (o.turns s w rs).flatMap Turn.issued)
    (hnone : (o.states w).find? state = none) : (o.states (o.after s w rs)).find? state = none := by
  induction rs generalizing w with
  | nil => exact hnone
  | cons r rs ih =>
    rw [List.forall_mem_cons] at h
    rw [turns, List.flatMap_cons, List.mem_append, not_or] at hissued
    exact ih h.2 hissued.2 ((course h.1).absent_of_absent hissued.1 hnone)

theorem absent_of_spent {state : String} (hspent : o.Spent s w rs state) :
    (o.states (o.after s w rs)).find? state = none := by
  rcases hspent with hnever | ⟨before, r, since, rfl, hpresents, hissued⟩
  · rw [issued, List.mem_append, not_or] at hnever
    refine absent_after h hnever.2 (Option.eq_none_iff_forall_ne_some.mpr fun last hlast => ?_)
    exact hnever.1 (List.mem_map_of_mem (Keyed.find?_eq_some_iff.mp hlast))
  · have hleg : OfLogin r := h r (by simp)
    have hgone : (o.states (o.after s w (before ++ [r]))).find? state = none := by
      rw [o.after_append]
      exact (course hleg).absent_of_presents hpresents
    have hsince : ∀ r' ∈ since, OfLogin r' := fun r' hr' => h r' (by simp [hr'])
    rw [List.append_cons, o.after_append]
    exact absent_after hsince hissued hgone

/-- What is honoured on the way, and what is out at its end, was handed out. -/
theorem honoured_add_size_le :
    ((o.turns s w rs).map Turn.honoured).sum + (o.states (o.after s w rs)).size ≤
      (o.issued s w rs).length := by
  induction rs generalizing w with
  | nil =>
    rw [length_issued]
    exact Nat.le_of_eq (Nat.zero_add _)
  | cons r rs ih =>
    rw [List.forall_mem_cons] at h
    have hstep := (course (o := o) (s := s) (w := w) h.1).honoured_add_size_le
    have hrest := ih h.2 (w := (o.turn s w r).after)
    rw [length_issued] at hrest ⊢
    rw [turns, List.map_cons, List.sum_cons, List.flatMap_cons, List.length_append]
    change (o.turn s w r).honoured + _ + (o.states (o.after s (o.turn s w r).after rs)).size ≤ _
    omega

theorem gain_le_issued {gain : Turn W → Nat}
    (hgain : ∀ w r t, t.request = r → Course o s w r t → gain t ≤ t.honoured) :
    ((o.turns s w rs).map gain).sum ≤ (o.issued s w rs).length := by
  have hsum : ((o.turns s w rs).map gain).sum ≤ ((o.turns s w rs).map Turn.honoured).sum := by
    refine List.sum_le_sum fun t ht => ?_
    obtain ⟨w', r, hrequest, hcourse⟩ := course_of_mem_turns h ht
    exact hgain w' r t hrequest hcourse
  have hhonoured := honoured_add_size_le (o := o) (s := s) (w := w) h
  omega

end

end Surroundings

/-! ## The law -/

section

variable {W S : Type}

/-- What comes of one leg of a login behind others. -/
structure SingleUse (o : Surroundings W S) (s : Service) (w : W) (past : List Request)
    (r : Request) (t : Turn W) : Prop where
  /-- A state that is presented is gone, whatever else happens. -/
  gone : ∀ state, Presents r state → (o.states t.after).find? state = none
  /-- A state that works is good for one question to the provider, if nothing else is missing. -/
  taken : ∀ state, Presents r state → ∃ now rest, t.asked = ⟨.clock, some now⟩ ::
      ⟨.consumeState state now,
        some (LoginStates.consume state now (o.states (o.after s w past))).1⟩ :: rest ∧
    ((LoginStates.consume state now (o.states (o.after s w past))).1 = true → (code? r).isSome →
      s.provider.isSome → t.exchanges = 1)
  /-- All that comes before the identity provider is asked. -/
  earned : ∀ before a since code, t.asked = before ++ a :: since → a.call = .exchange code →
    code? r = some code ∧ s.provider.isSome ∧ ∃ state now, Presents r state ∧
      (LoginStates.consume state now (o.states (o.after s w past))).1 = true ∧
      before = [⟨.clock, some now⟩, ⟨.consumeState state now, some true⟩]
  exchanges_le : ((o.turns s w past).map Turn.exchanges).sum ≤ (o.issued s w past).length
  admitted_le : ((o.turns s w past).map Turn.admitted).sum ≤ (o.issued s w past).length
  /-- Nothing but the clock and the states is asked then. -/
  refused : ∀ state, Presents r state → o.Spent s w past state →
    t.response = some invalidState ∧ o.stores t.after = o.stores (o.after s w past) ∧
      ∃ now, t.asked = [⟨.clock, some now⟩, ⟨.consumeState state now, some false⟩]

end

/-- Whatever the stores, the signer and the identity provider do: a callback uses up its state,
the provider is asked only for a state that works, no more often than states were handed out,
and a state that is spent gets nobody anywhere. -/
theorem callbacks_burn_their_states {W S : Type} (o : Surroundings W S) (s : Service) (w : W)
    {past : List Request} (hpast : ∀ r ∈ past, OfLogin r) {r : Request} (hr : OfLogin r) :
    SingleUse o s w past r (o.turn s (o.after s w past) r) where
  gone _ hpresents := (course hr).absent_of_presents hpresents
  taken _ hpresents := (course hr).taken hpresents
  earned _ _ _ _ hsplit hcall := (course hr).earned hsplit hcall
  exchanges_le := Surroundings.gain_le_issued hpast fun _ _ _ _ h => h.exchanges_le_honoured
  admitted_le := Surroundings.gain_le_issued hpast fun _ _ _ hrequest h =>
    h.admitted_le_honoured hrequest
  refused _ hpresents hspent :=
    (course hr).refused_of_absent hpresents (Surroundings.absent_of_spent hpast hspent)

/-- A service with an identity provider. -/
def loginService : Service := { plainService with provider := some ⟨fun state => "/login?" ++ state⟩ }

/-- Everybody who comes back is Ann. -/
def annsSupply : Supply := { plainSupply with exchange := fun _ _ => .ok ⟨"ann@example.org", "Ann"⟩ }

/-- A directory that does not find anybody. -/
def outage : List (String × Fault) := [("find_by_email", .fails (.unavailable "down"))]

def departure : Request := ⟨.get, ⟨"/auth/login/google", none⟩, [], []⟩

def comeback : Request := ⟨.get, ⟨"/auth/callback/google", some "state=state&code=code"⟩, [], []⟩

/-- Where the directory fails nobody gets any tokens, but the state is used up: the provider is
asked when somebody comes back, and not when the same comes back again. -/
theorem a_replayed_callback_is_refused :
    let o := World.faultySurroundings outage annsSupply
    let w := o.after loginService World.empty [departure, comeback]
    let t := o.turn loginService w comeback
    (∀ r ∈ [departure, comeback], OfLogin r) ∧ OfLogin comeback ∧
      ((o.turns loginService World.empty [departure, comeback]).map Turn.exchanges).sum = 1 ∧
      SingleUse o loginService World.empty [departure, comeback] comeback t ∧
      t.response = some invalidState ∧ t.exchanges = 0 := by
  intro o w t
  have hdeparture : OfLogin departure := ⟨.login, rfl, rfl⟩
  have hcomeback : OfLogin comeback := ⟨.callback, rfl, rfl⟩
  have hpast : ∀ r ∈ [departure, comeback], OfLogin r := by
    simp [hdeparture, hcomeback]
  have hpresents : Presents comeback "state" := ⟨⟨rfl, rfl⟩, by decide +kernel⟩
  have hlaw := callbacks_burn_their_states o loginService World.empty hpast hcomeback
  have hspent : o.Spent loginService World.empty [departure, comeback] "state" :=
    Or.inr ⟨[departure], comeback, [], rfl, hpresents, List.not_mem_nil⟩
  obtain ⟨hresponse, -, now, hasked⟩ := hlaw.refused "state" hpresents hspent
  refine ⟨hpast, hcomeback, by decide +kernel, hlaw, hresponse, ?_⟩
  rw [Turn.exchanges, hasked]
  rfl

end TenantAuth.Api
