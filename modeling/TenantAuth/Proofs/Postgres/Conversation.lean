-- What an operation sends to the database and what it hears back. An operation is
-- read as the conversations it may take part in, whatever the server replies.

import TenantAuth.Postgres.Sessions

namespace TenantAuth.Postgres

/-- A statement that was sent, and the reply to it. -/
structure Sent where
  statement : Statement
  reply : Except Failure Outcome

/-- What of a call and its reply is a statement with its reply. -/
def heard : (c : Call) → c.Reply → List Sent
  | .send s, reply => [⟨s, reply⟩]
  | .acquire, _ | .connect .., _ => []

/-- The program sends the statements of the list in their order, hears those replies,
and ends so: with a value, or with none where it breaks down. Whether there is a
connection is left open. -/
def Takes {α : Type} : DatabaseProgram α → List Sent → Option α → Prop
  | .done a, t, r => t = [] ∧ r = some a
  | .broken, t, r => t = [] ∧ r = none
  | .call c next, t, r => ∃ reply rest, t = heard c reply ++ rest ∧ Takes (next reply) rest r

theorem takes_andThen {α β : Type} {p : DatabaseProgram α} {f : α → DatabaseProgram β}
    {t : List Sent} {r : Option β} :
    Takes (p.andThen f) t r ↔
      (∃ t₁ a t₂, t = t₁ ++ t₂ ∧ Takes p t₁ (some a) ∧ Takes (f a) t₂ r) ∨
      (Takes p t none ∧ r = none) := by
  induction p generalizing t with
  | done a =>
    constructor
    · intro h
      exact Or.inl ⟨[], a, t, rfl, ⟨rfl, rfl⟩, h⟩
    · rintro (⟨t₁, a', t₂, rfl, ⟨rfl, ha⟩, h⟩ | ⟨⟨-, hn⟩, -⟩)
      · cases ha
        exact h
      · cases hn
  | broken =>
    constructor
    · rintro ⟨rfl, rfl⟩
      exact Or.inr ⟨⟨rfl, rfl⟩, rfl⟩
    · rintro (⟨t₁, a, t₂, rfl, ⟨-, ha⟩, -⟩ | ⟨⟨rfl, -⟩, rfl⟩)
      · cases ha
      · exact ⟨rfl, rfl⟩
  | call c next ih =>
    constructor
    · rintro ⟨reply, rest, rfl, h⟩
      rcases (ih reply).mp h with ⟨t₁, a, t₂, rfl, h₁, h₂⟩ | ⟨h', rfl⟩
      · exact Or.inl ⟨heard c reply ++ t₁, a, t₂, by simp, ⟨reply, t₁, rfl, h₁⟩, h₂⟩
      · exact Or.inr ⟨⟨reply, rest, rfl, h'⟩, rfl⟩
    · rintro (⟨t₁, a, t₂, rfl, ⟨reply, rest, rfl, h₁⟩, h₂⟩ | ⟨⟨reply, rest, rfl, h'⟩, rfl⟩)
      · exact ⟨reply, rest ++ t₂, by simp, (ih reply).mpr (Or.inl ⟨rest, a, t₂, rfl, h₁, h₂⟩)⟩
      · exact ⟨reply, rest, rfl, (ih reply).mpr (Or.inr ⟨h', rfl⟩)⟩

/-! ## Servers -/

/-- Somebody to talk to. What is replied to a statement may depend on all that was said
before. -/
structure Server where
  connects : Except Failure Unit
  acquires : Except Failure Unit
  replies : List Sent → Statement → Except Failure Outcome

namespace Server

def reply (server : Server) (past : List Sent) : (c : Call) → c.Reply
  | .connect .. => server.connects
  | .acquire => server.acquires
  | .send s => server.replies past s

def answer (server : Server) (c : Call) (past : List Sent) : Option c.Reply × List Sent :=
  (some (server.reply past c), past ++ heard c (server.reply past c))

/-- What a program ends with against a server, and what was said. -/
def talk {α : Type} (server : Server) (p : DatabaseProgram α) : Option α × List Sent :=
  p.run server.answer []

theorem takes_run {α : Type} (server : Server) (p : DatabaseProgram α) (past : List Sent) :
    ∃ t, (p.run server.answer past).2 = past ++ t ∧ Takes p t (p.run server.answer past).1 := by
  induction p generalizing past with
  | done a => exact ⟨[], by simp [Program.run], rfl, rfl⟩
  | broken => exact ⟨[], by simp [Program.run], rfl, rfl⟩
  | call c next ih =>
    obtain ⟨t, ht, htakes⟩ := ih (server.reply past c) (past ++ heard c (server.reply past c))
    rw [List.append_assoc] at ht
    exact ⟨heard c (server.reply past c) ++ t, ht, _, t, rfl, htakes⟩

/-- What is said to a server is a conversation of the program. -/
theorem takes_talk {α : Type} (server : Server) (p : DatabaseProgram α) :
    Takes p (server.talk p).2 (server.talk p).1 := by
  obtain ⟨t, ht, htakes⟩ := server.takes_run p []
  rw [List.nil_append] at ht
  rw [talk, ht]
  exact htakes

/-- What was said stays said. -/
theorem replied_run {α : Type} (server : Server) (p : DatabaseProgram α) {past : List Sent}
    (hpast : ∀ e ∈ past, ∃ q, e.reply = server.replies q e.statement) :
    ∀ e ∈ (p.run server.answer past).2, ∃ q, e.reply = server.replies q e.statement := by
  induction p generalizing past with
  | done a => exact hpast
  | broken => exact hpast
  | call c next ih =>
    apply ih
    intro e he
    rcases List.mem_append.mp he with he | he
    · exact hpast e he
    · cases c with
      | connect => cases he
      | acquire => cases he
      | send s =>
        rw [List.mem_singleton.mp he]
        exact ⟨past, rfl⟩

theorem replied_talk {α : Type} (server : Server) (p : DatabaseProgram α) :
    ∀ e ∈ (server.talk p).2, ∃ q, e.reply = server.replies q e.statement :=
  server.replied_run p (by simp)

end Server

/-! ## Steps -/

namespace Step

variable {ε α β : Type}

theorem takes_bind {p : Step ε α} {f : α → Step ε β} {l : Link} {t : List Sent}
    {r : Option (Except ε β × Link)} :
    Takes ((p >>= f) l) t r ↔
      (∃ t₁ a l₁ t₂, t = t₁ ++ t₂ ∧ Takes (p l) t₁ (some (.ok a, l₁)) ∧ Takes (f a l₁) t₂ r) ∨
      (∃ e l₁, Takes (p l) t (some (.error e, l₁)) ∧ r = some (.error e, l₁)) ∨
      (Takes (p l) t none ∧ r = none) := by
  change Takes ((p l).andThen _) t r ↔ _
  rw [takes_andThen]
  constructor
  · rintro (⟨t₁, ⟨a | a, l₁⟩, t₂, rfl, h₁, h₂⟩ | h)
    · obtain ⟨rfl, rfl⟩ := h₂
      exact Or.inr (Or.inl ⟨a, l₁, by simpa using h₁, rfl⟩)
    · exact Or.inl ⟨t₁, a, l₁, t₂, rfl, h₁, h₂⟩
    · exact Or.inr (Or.inr h)
  · rintro (⟨t₁, a, l₁, t₂, rfl, h₁, h₂⟩ | ⟨e, l₁, h, rfl⟩ | h)
    · exact Or.inl ⟨t₁, _, t₂, rfl, h₁, h₂⟩
    · exact Or.inl ⟨t, _, [], by simp, h, rfl, rfl⟩
    · exact Or.inr h

end Step

/-- What is owed after replies that were not waited for: the first refusal. -/
def owedBy (t : List Sent) : Option Failure :=
  t.findSome? fun e => match e.reply with
    | .ok _ => none
    | .error f => some f

theorem owedBy_eq_none_iff {t : List Sent} :
    owedBy t = none ↔ ∀ e ∈ t, ∃ o, e.reply = .ok o := by
  rw [owedBy, List.findSome?_eq_none_iff]
  refine forall₂_congr fun e _ => ?_
  cases e.reply <;> simp

theorem Step.takes_post {s : Statement} {l : Link} {t : List Sent} {r : Option Link}
    (h : Takes (Step.post s l) t r) :
    ∃ reply, t = [⟨s, reply⟩] ∧ r = some { l with owed := l.owed.or (owedBy [⟨s, reply⟩]) } := by
  obtain ⟨reply, rest, rfl, h⟩ := h
  obtain ⟨depth, owed⟩ := l
  rcases reply with f | o <;> obtain ⟨rfl, rfl⟩ := h <;> refine ⟨_, rfl, ?_⟩ <;> cases owed <;> rfl

theorem Step.takes_postAll {statements : List Statement} {l : Link} {t : List Sent}
    {r : Option Link} (h : Takes (Step.postAll statements l) t r) :
    t.map Sent.statement = statements ∧ r = some { l with owed := l.owed.or (owedBy t) } := by
  induction statements generalizing l t with
  | nil =>
    obtain ⟨rfl, rfl⟩ := h
    exact ⟨rfl, by simp [owedBy]⟩
  | cons s rest ih =>
    rcases takes_andThen.mp h with ⟨t₁, l₁, t₂, rfl, h₁, h₂⟩ | ⟨h₁, -⟩
    · obtain ⟨reply, rfl, heq⟩ := Step.takes_post h₁
      cases heq
      obtain ⟨rfl, rfl⟩ := ih h₂
      refine ⟨rfl, ?_⟩
      dsimp only
      rw [Option.or_assoc]
      cases reply <;> simp [owedBy]
    · obtain ⟨_, _, heq⟩ := Step.takes_post h₁
      cases heq

/-- What the client posts where no transaction could be opened gives one up. -/
theorem givesUp_of_posted {m : TransactionManager} {depth : Nat} {posted : List Sent}
    (h : posted.map Sent.statement = m.posted depth) : ∀ e ∈ posted, e.statement.givesUp = true := by
  intro e he
  refine m.givesUp_of_mem depth _ ?_
  rw [← h]
  exact List.mem_map_of_mem he

namespace Sessions

open Step

/-- What a rotation does when it has deleted. -/
def exchange (newHash : String) (newId : SessionId) (now : Instant) (consumed : Outcome) :
    Step StoreError (Option Session) :=
  match consumed.rows.head? with
  | none => pure none
  | some row => do
    let s ← lift (sessionOfRow row)
    if s.isExpiredAt now then pure (some s)
    else
      match Session.fresh? newId s.user newHash now with
      | none => broken
      | some next => do
        upsert next
        pure (some s)

theorem rotate_eq [TransactionManager] (hash newHash : String) (newId : SessionId) (now : Instant) :
    rotate hash newHash newId now = transaction "rotate" (do
      sweepInside now
      let consumed ← within "consume_session" (send (.consumeSession hash))
      exchange newHash newId now consumed) := rfl

/-- The ways in which a sweep goes inside a transaction. -/
theorem sweep_cases [m : TransactionManager] {now : Instant} {t : List Sent}
    {r : Option (Except StoreError Unit × Link)} (h : Takes (sweepInside now ⟨1, none⟩) t r) :
    ∃ l, r = some (.ok (), l) ∧
      ((∃ f posted, t = ⟨.savepoint, .error f⟩ :: posted ∧
        posted.map Sent.statement = m.posted 1 ∧ l = ⟨m.left 1, owedBy posted⟩) ∨
      (∃ o₁ o₂ o₃, t = [⟨.savepoint, .ok o₁⟩, ⟨.sweep now, .ok o₂⟩, ⟨.release, .ok o₃⟩] ∧
        l = ⟨1, none⟩) ∨
      (∃ o₁ f reply, t = [⟨.savepoint, .ok o₁⟩, ⟨.sweep now, .error f⟩,
        ⟨.rollbackToSavepoint, reply⟩] ∧ l = ⟨1, owedBy [⟨.rollbackToSavepoint, reply⟩]⟩) ∨
      (∃ o₁ o₂ f reply, t = [⟨.savepoint, .ok o₁⟩, ⟨.sweep now, .ok o₂⟩, ⟨.release, .error f⟩,
        ⟨.rollbackToSavepoint, reply⟩] ∧ l = ⟨1, owedBy [⟨.rollbackToSavepoint, reply⟩]⟩)) := by
  obtain ⟨savepoint, rest, rfl, h⟩ := h
  rcases savepoint with f | o₁
  · change Takes ((((unopened ⟨1, none⟩).andThen _).andThen _).andThen _) rest r at h
    rw [Program.andThen_assoc, Program.andThen_assoc] at h
    rcases takes_andThen.mp h with ⟨posted, l, t₂, rfl, h₁, rfl, rfl⟩ | ⟨h₁, -⟩
    · obtain ⟨hposted, heq⟩ := takes_postAll h₁
      cases heq
      exact ⟨_, rfl, Or.inl ⟨f, posted, by simp [heard], hposted, by simp⟩⟩
    · cases (takes_postAll h₁).2
  · obtain ⟨swept, rest, rfl, h⟩ := h
    rcases swept with f | o₂
    · obtain ⟨reply, rest, rfl, h⟩ := h
      rcases reply with f' | o <;> obtain ⟨rfl, rfl⟩ := h
      · exact ⟨_, rfl, Or.inr (Or.inr (Or.inl ⟨o₁, f, _, rfl, rfl⟩))⟩
      · exact ⟨_, rfl, Or.inr (Or.inr (Or.inl ⟨o₁, f, _, rfl, rfl⟩))⟩
    · obtain ⟨released, rest, rfl, h⟩ := h
      rcases released with f | o₃
      · obtain ⟨reply, rest, rfl, h⟩ := h
        rcases reply with f' | o <;> obtain ⟨rfl, rfl⟩ := h
        · exact ⟨_, rfl, Or.inr (Or.inr (Or.inr ⟨o₁, o₂, f, _, rfl, rfl⟩))⟩
        · exact ⟨_, rfl, Or.inr (Or.inr (Or.inr ⟨o₁, o₂, f, _, rfl, rfl⟩))⟩
      · obtain ⟨rfl, rfl⟩ := h
        exact ⟨_, rfl, Or.inr (Or.inl ⟨o₁, o₂, o₃, rfl, rfl⟩)⟩

end Sessions

end TenantAuth.Postgres
