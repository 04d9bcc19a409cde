-- The service among anything at all. The stores, the identity provider and chance may
-- reply as they like, fail, or never reply; only the clock always goes, and the states of
-- logins are kept as the library keeps them.

import TenantAuth.Api.Fault
import TenantAuth.Api.Router
import TenantAuth.Proofs.Program

namespace TenantAuth.Api

open TenantAuth.Http

namespace Call

variable {B : Type}

/-- The call hands out the state of a login, or takes one back. -/
def OfStates : Call B → Prop
  | .fileState .. | .consumeState .. => True
  | _ => False

def OfStores : Call B → Prop
  | .backend _ | .within .. => True
  | _ => False

/-- The state that the call hands out. -/
def issued? : Call B → Option String
  | .fileState token _ _ => some token
  | _ => none

/-- The call asks the identity provider who is behind a code. -/
def exchanges : Call B → Bool
  | .exchange _ => true
  | _ => false

end Call

/-- What answers the calls of the service, where `W` is all that lasts outside of it. Besides
the clock and the states of logins everything may reply as it likes, or not at all. -/
structure Surroundings (W S : Type) where
  answer : (c : Call BackendCall) → W → Option (c.Reply BackendCall.Reply) × W
  states : W → LoginStates
  /-- What the two stores hold. -/
  stores : W → S
  clock_goes : ∀ w, ∃ now, (answer .clock w).1 = some now
  files : ∀ token ttl now w, (answer (.fileState token ttl now) w).1 = some () ∧
    states (answer (.fileState token ttl now) w).2 = (states w).file token ttl now
  consumes : ∀ token now w,
    (answer (.consumeState token now) w).1 = some (LoginStates.consume token now (states w)).1 ∧
    states (answer (.consumeState token now) w).2 = (LoginStates.consume token now (states w)).2
  keeps_states : ∀ c w, ¬ c.OfStates → states (answer c w).2 = states w
  keeps_stores : ∀ c w, ¬ c.OfStores → stores (answer c w).2 = stores w

/-! ## The surroundings that are there -/

/-- Both stores in memory. -/
def World.surroundings (supply : Supply) : Surroundings World Memory where
  answer := World.answer supply
  states := World.states
  stores := World.memory
  clock_goes _ := ⟨_, rfl⟩
  files _ _ _ _ := ⟨rfl, rfl⟩
  consumes _ _ _ := ⟨rfl, rfl⟩
  keeps_states c w hc := by
    cases c with
    | within limit b =>
      simp only [World.answer]
      split <;> rfl
    | fileState token ttl now => exact absurd trivial hc
    | consumeState token now => exact absurd trivial hc
    | _ => rfl
  keeps_stores c w hc := by
    cases c with
    | backend b => exact absurd trivial hc
    | within limit b => exact absurd trivial hc
    | _ => rfl

/-- Stores of which some calls fail, or never come back. -/
def World.faultySurroundings (faults : List (String × Fault)) (supply : Supply) :
    Surroundings World Memory where
  answer := World.answerFaulty faults supply
  states := World.states
  stores := World.memory
  clock_goes _ := ⟨_, rfl⟩
  files _ _ _ _ := ⟨rfl, rfl⟩
  consumes _ _ _ := ⟨rfl, rfl⟩
  keeps_states c w hc := by
    have hkept := (World.surroundings supply).keeps_states c w hc
    cases c with
    | backend b =>
      simp only [World.answerFaulty]
      rcases faults.lookup b.name with _ | e | _
      · exact hkept
      · rfl
      · rfl
    | within limit b =>
      simp only [World.answerFaulty]
      rcases faults.lookup b.name with _ | e | _
      · exact hkept
      · rfl
      · rfl
    | _ => exact hkept
  keeps_stores c w hc := by
    have hkept := (World.surroundings supply).keeps_stores c w hc
    cases c with
    | backend b => exact absurd trivial hc
    | within limit b => exact absurd trivial hc
    | _ => exact hkept

/-! ## One request after the other -/

abbrev Asked := Program.Asked (Call BackendCall) (Call.Reply BackendCall.Reply)

/-- A request that was served: what was asked for it, and what came of it. There is no
response where a call was never answered. -/
structure Turn (W : Type) where
  request : Request
  asked : List Asked
  response : Option Response
  after : W

namespace Turn

variable {W : Type}

/-- The states that were handed out. -/
def issued (t : Turn W) : List String := t.asked.filterMap fun a => a.call.issued?

/-- One call more, before all others. -/
def behind (a : Asked) (t : Turn W) : Turn W := { t with asked := a :: t.asked }

/-- How often the identity provider was asked. -/
def exchanges (t : Turn W) : Nat := t.asked.countP fun a => a.call.exchanges

end Turn

namespace Surroundings

variable {W S : Type} (o : Surroundings W S) (s : Service)

/-- A computation that answers a request. -/
def play (r : Request) (p : Handler Response) (w : W) : Turn W where
  request := r
  asked := p.asked o.answer w
  response := (p.run o.answer w).1
  after := (p.run o.answer w).2

def turn (w : W) (r : Request) : Turn W := o.play r (s.serve r) w

/-- Requests served one after the other. -/
def turns (w : W) : List Request → List (Turn W)
  | [] => []
  | r :: rs => o.turn s w r :: turns (o.turn s w r).after rs

/-- What some requests leave behind. -/
def after (w : W) (rs : List Request) : W := rs.foldl (fun w r => (o.turn s w r).after) w

theorem play_done (r : Request) (response : Response) (w : W) :
    o.play r (.done response) w = ⟨r, [], some response, w⟩ := rfl

theorem play_call_some {c : Call BackendCall} {reply : c.Reply BackendCall.Reply} {w w' : W}
    (h : o.answer c w = (some reply, w')) (r : Request)
    (next : c.Reply BackendCall.Reply → Handler Response) :
    o.play r (.call c next) w = (o.play r (next reply) w').behind ⟨c, some reply⟩ := by
  rw [play, Program.asked_call_some h, Program.run_call_some h]
  rfl

theorem play_call_none {c : Call BackendCall} {w w' : W} (h : o.answer c w = (none, w'))
    (r : Request) (next : c.Reply BackendCall.Reply → Handler Response) :
    o.play r (.call c next) w = ⟨r, [⟨c, none⟩], none, w'⟩ := by
  rw [play, Program.asked_call_none h, Program.run_call_none h]

theorem after_append (w : W) (rs rs' : List Request) :
    o.after s w (rs ++ rs') = o.after s (o.after s w rs) rs' := List.foldl_append

end Surroundings

end TenantAuth.Api
