-- Computations that reach the outside world only through calls. A program
-- says which call it makes next and how it goes on with the reply; who
-- answers the calls is decided elsewhere, so one program can be run over
-- stores in memory, over a database, or one call at a time among others.

namespace TenantAuth

/-- A computation that makes calls `C` and gets for call `c` a reply of type
`R c`. It ends with a value, or it breaks down and gives no value at all. -/
inductive Program (C : Type) (R : C → Type) (α : Type) where
  | done (value : α)
  | broken
  | call (c : C) (next : R c → Program C R α)

namespace Program

variable {C D : Type} {R : C → Type} {S : D → Type} {α β γ σ : Type}

/-- Go on with the value of a program. -/
def andThen : Program C R α → (α → Program C R β) → Program C R β
  | done a, f => f a
  | broken, _ => broken
  | call c next, f => call c fun r => (next r).andThen f

instance : Monad (Program C R) where
  pure := done
  bind := andThen

/-- Make one call and give its reply. -/
def perform (c : C) : Program C R (R c) := call c done

/-- Answer every call of a program with a program of another kind. -/
def interpret (answer : (c : C) → Program D S (R c)) : Program C R α → Program D S α
  | done a => done a
  | broken => broken
  | call c next => (answer c).andThen fun r => (next r).interpret answer

/-- Run a program against a state. `answer` gives the reply and the next
state; no reply at all means that the program breaks down there. -/
def run (answer : (c : C) → σ → Option (R c) × σ) : Program C R α → σ → Option α × σ
  | done a, s => (some a, s)
  | broken, s => (none, s)
  | call c next, s =>
    match answer c s with
    | (some r, s') => (next r).run answer s'
    | (none, s') => (none, s')

/-! ## Laws of sequencing -/

@[simp] theorem pure_eq (a : α) : (pure a : Program C R α) = done a := rfl

@[simp] theorem bind_eq (p : Program C R α) (f : α → Program C R β) : p >>= f = p.andThen f := rfl

@[simp] theorem done_andThen (a : α) (f : α → Program C R β) : (done a).andThen f = f a := rfl

@[simp] theorem broken_andThen (f : α → Program C R β) :
    (broken : Program C R α).andThen f = broken := rfl

@[simp] theorem call_andThen (c : C) (next : R c → Program C R α) (f : α → Program C R β) :
    (call c next).andThen f = call c fun r => (next r).andThen f := rfl

@[simp] theorem andThen_done (p : Program C R α) : p.andThen done = p := by
  induction p with
  | done => rfl
  | broken => rfl
  | call c next ih => simp [ih]

theorem andThen_assoc (p : Program C R α) (f : α → Program C R β) (g : β → Program C R γ) :
    (p.andThen f).andThen g = p.andThen fun a => (f a).andThen g := by
  induction p with
  | done => rfl
  | broken => rfl
  | call c next ih => simp [ih]

/-- Running two programs one after the other is running the second from where
the first left the state. -/
theorem run_andThen (answer : (c : C) → σ → Option (R c) × σ) (p : Program C R α)
    (f : α → Program C R β) (s : σ) :
    (p.andThen f).run answer s =
      match p.run answer s with
      | (some a, s') => (f a).run answer s'
      | (none, s') => (none, s') := by
  induction p generalizing s with
  | done => rfl
  | broken => rfl
  | call c next ih =>
    simp only [call_andThen, run]
    cases h : answer c s with
    | mk r s' =>
      cases r with
      | none => rfl
      | some r => simp only [ih]

end Program

end TenantAuth
