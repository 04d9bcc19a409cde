-- All that can happen to the service with its data in memory: requests, uses of the sessions without
-- any, single calls, users put in by hand. What holds however it came about, and what lasts from then on.

import TenantAuth.Proofs.Api.Drawing
import TenantAuth.Proofs.Directory.Turns

namespace TenantAuth.Api

open TenantAuth.Http

/-! ## Deeds -/

/-- What the sessions can be asked for. The secret and the id of a new one are drawn on the spot. -/
inductive Use where
  | create (user : UserId) (now : Instant)
  | validate (secret : String) (now : Instant)
  | rotate (secret : String) (now : Instant)
  | revoke (user : UserId)
  | revokeSecret (secret : String)
  | sweep (now : Instant)

namespace Use

/-- The request that a use comes to with a new secret and a new id. -/
def request (secret : String) (id : SessionId) : Use → Refresh.Request
  | create user now => .create user secret id now
  | validate presented now => .validate presented now
  | rotate presented now => .rotate presented secret id now
  | revoke user => .revoke user
  | revokeSecret presented => .revokeSecret presented
  | sweep now => .sweep now

def handler (u : Use) : Handler Unit := do
  let secret ← Handler.ask .newSecret
  let id ← Handler.ask .newSessionId
  let _ ← Handler.stores (u.request secret id).program
  pure ()

theorem draws_handler (u : Use) (secrets : List String) : Draws secrets u.handler := by
  refine draws_ask_andThen rfl fun secret => draws_ask_andThen rfl fun id => ?_
  refine draws_andThen (draws_request _ fun x hx => ?_) fun _ _ => trivial
  cases u with
  | create | rotate =>
    cases hx
    exact List.mem_cons_self
  | validate | revoke | revokeSecret | sweep => cases hx

end Use

/-- One thing that happens to the service. -/
inductive Deed where
  | request (r : Request)
  | session (u : Use)
  /-- Any one call, but for those that file a session. -/
  | call (c : Call BackendCall) (h : c.newHash? = none)
  | insert (p : Principal) (now : Instant)
  | sweepStates (now : Instant)

namespace Deed

variable (s : Service) (supply : Supply) (w : World)

/-- What a deed leaves behind. -/
def after : Deed → World
  | request r => ((s.serve r).run (World.answer supply) w).2
  | session u => (u.handler.run (World.answer supply) w).2
  | call c _ => (World.answer supply c w).2
  | insert p now => { w with memory :=
      { w.memory with directory := (w.memory.directory.insert p now).2 } }
  | sweepStates now => { w with states := (LoginStates.sweep now w.states).2 }

/-- The calls that are made for a deed. -/
def asks : Deed → List (Call BackendCall)
  | request r => ((s.serve r).asked (World.answer supply) w).map (·.call)
  | session u => (u.handler.asked (World.answer supply) w).map (·.call)
  | call c _ => [c]
  | insert .. | sweepStates _ => []

theorem calls_le_after (d : Deed) : w.calls ≤ (d.after s supply w).calls := by
  cases d with
  | request r => exact calls_le_run _ w
  | session u => exact calls_le_run _ w
  | call c h => exact (World.calls_answer supply c w).symm ▸ Nat.le_succ _
  | insert | sweepStates => exact Nat.le_refl _

end Deed

/-- A world comes out of another by deeds that ask of the sessions no more than is allowed. -/
inductive Leads (s : Service) (supply : Supply) (allowed : SessionCall → Prop) (w : World) :
    World → Prop
  | refl : Leads s supply allowed w w
  | step {w' : World} (d : Deed) : Leads s supply allowed w w' →
      (∀ c ∈ d.asks s supply w', ∀ sc, c.session? = some sc → allowed sc) →
      Leads s supply allowed w (d.after s supply w')

/-- A world comes out of an empty one by any deeds. -/
def Reached (s : Service) (supply : Supply) (w : World) : Prop :=
  Leads s supply (fun _ => True) .empty w

section

variable {s : Service} {supply : Supply} {allowed : SessionCall → Prop} {w w' w'' : World}

theorem Leads.calls_le (h : Leads s supply allowed w w') : w.calls ≤ w'.calls := by
  induction h with
  | refl => exact Nat.le_refl _
  | step d _ _ ih => exact ih.trans (d.calls_le_after s supply _)

theorem Leads.trans (h : Leads s supply allowed w w') (h' : Leads s supply allowed w' w'') :
    Leads s supply allowed w w'' := by
  induction h' with
  | refl => exact h
  | step d _ hasks ih => exact .step d ih hasks

/-- One more deed of any kind. -/
theorem Leads.deed (h : Leads s supply (fun _ => True) w w') (d : Deed) :
    Leads s supply (fun _ => True) w (d.after s supply w') :=
  .step d h fun _ _ _ _ => trivial

theorem Leads.deeds (h : Leads s supply (fun _ => True) w w') (ds : List Deed) :
    Leads s supply (fun _ => True) w (ds.foldl (fun v d => d.after s supply v) w') := by
  induction ds generalizing w' with
  | nil => exact h
  | cons d ds ih => exact ih (h.deed d)

end

/-! ## What lasts -/

/-- All that one call can do to what is stored. -/
theorem World.memory_answer (supply : Supply) (c : Call BackendCall) (w : World) :
    (World.answer supply c w).2.memory = w.memory ∨
    (∃ sc, c.session? = some sc ∧ (World.answer supply c w).2.memory =
      { w.memory with sessions := (w.memory.sessions.answer sc).2 }) ∨
    ∃ d, Directory.Step w.memory.directory d ∧
      (World.answer supply c w).2.memory = { w.memory with directory := d } := by
  have hdirectory : ∀ dc, Directory.Step w.memory.directory (w.memory.directory.answer dc).2 :=
    fun dc => (w.memory.directory.turned_turn (.call dc)).step
  cases c with
  | backend b =>
    cases b with
    | sessions sc => exact Or.inr (Or.inl ⟨sc, rfl, rfl⟩)
    | directory dc => exact Or.inr (Or.inr ⟨_, hdirectory dc, rfl⟩)
  | within limit b =>
    simp only [World.answer]
    cases supply.late w.calls with
    | true => exact Or.inl rfl
    | false =>
      cases b with
      | sessions sc => exact Or.inr (Or.inl ⟨sc, rfl, rfl⟩)
      | directory dc => exact Or.inr (Or.inr ⟨_, hdirectory dc, rfl⟩)
  | _ => exact Or.inl rfl

/-- What is so of the stores after some number of calls stays so, as long as the sessions are asked
for what is allowed, and filed under secrets that were drawn since the start. -/
structure Lasting (supply : Supply) (allowed : SessionCall → Prop) (start : Nat)
    (P : Memory → Nat → Prop) : Prop where
  later : ∀ {m n}, P m n → P m (n + 1)
  sessions : ∀ {c m n}, allowed c → (∀ hash, c.newHash? = some hash → supply.Drew start n hash) →
    m.sessions.table.WellFiled → P m n → P { m with sessions := (m.sessions.answer c).2 } n
  directory : ∀ {m d n}, Directory.Step m.directory d → P m n → P { m with directory := d } n

namespace Lasting

variable {s : Service} {supply : Supply} {allowed : SessionCall → Prop} {start : Nat}
  {P : Memory → Nat → Prop} (h : Lasting supply allowed start P)

include h

/-- One call leaves the sessions in order as well. -/
theorem answer {c : Call BackendCall} {w : World} (hc : ∀ sc, c.session? = some sc → allowed sc)
    (hdrew : ∀ hash, c.newHash? = some hash → supply.Drew start w.calls hash)
    (hP : w.memory.sessions.table.WellFiled ∧ P w.memory w.calls) :
    (World.answer supply c w).2.memory.sessions.table.WellFiled ∧
      P (World.answer supply c w).2.memory (World.answer supply c w).2.calls := by
  obtain ⟨hfiled, hP⟩ := hP
  rw [World.calls_answer]
  rcases World.memory_answer supply c w with hsame | ⟨sc, hsc, hsessions⟩ | ⟨d, hstep, hdirectory⟩
  · rw [hsame]
    exact ⟨hfiled, h.later hP⟩
  · rw [hsessions]
    refine ⟨(SessionMemory.passed hfiled sc).wellFiled, h.later ?_⟩
    refine h.sessions (hc sc hsc) (fun hash hhash => hdrew hash ?_) hfiled hP
    rw [Call.newHash?, hsc, Option.bind_some, hhash]
  · rw [hdirectory]
    exact ⟨hfiled, h.later (h.directory hstep hP)⟩

theorem run {α : Type} {p : Handler α} (hp : Draws [] p) {w : World} (hstart : start ≤ w.calls)
    (hasks : ∀ c ∈ (p.asked (World.answer supply) w).map (·.call), ∀ sc, c.session? = some sc →
      allowed sc)
    (hP : w.memory.sessions.table.WellFiled ∧ P w.memory w.calls) :
    (p.run (World.answer supply) w).2.memory.sessions.table.WellFiled ∧
      P (p.run (World.answer supply) w).2.memory (p.run (World.answer supply) w).2.calls :=
  run_of_draws (P := fun w => w.memory.sessions.table.WellFiled ∧ P w.memory w.calls)
    (fun _ _ hc hdrew hP => h.answer hc hdrew hP) hp hstart (fun _ hx => by cases hx)
    (fun a ha => hasks a.call (List.mem_map_of_mem ha)) hP

theorem deed {w : World} (d : Deed) (hstart : start ≤ w.calls)
    (hasks : ∀ c ∈ d.asks s supply w, ∀ sc, c.session? = some sc → allowed sc)
    (hP : w.memory.sessions.table.WellFiled ∧ P w.memory w.calls) :
    (d.after s supply w).memory.sessions.table.WellFiled ∧
      P (d.after s supply w).memory (d.after s supply w).calls := by
  cases d with
  | request r => exact h.run (s.draws_serve r) hstart hasks hP
  | session u => exact h.run (u.draws_handler []) hstart hasks hP
  | call c hfiles =>
    refine h.answer (hasks c List.mem_cons_self) (fun hash hhash => ?_) hP
    rw [hfiles] at hhash
    cases hhash
  | insert p now => exact ⟨hP.1, h.directory (Directory.turned_insert _ p now).step hP.2⟩
  | sweepStates now => exact hP

theorem leads {w w' : World} (hleads : Leads s supply allowed w w') (hstart : start ≤ w.calls)
    (hP : w.memory.sessions.table.WellFiled ∧ P w.memory w.calls) :
    w'.memory.sessions.table.WellFiled ∧ P w'.memory w'.calls := by
  induction hleads with
  | refl => exact hP
  | step d hleads hasks ih => exact h.deed d (hstart.trans hleads.calls_le) hasks ih

end Lasting

end TenantAuth.Api
