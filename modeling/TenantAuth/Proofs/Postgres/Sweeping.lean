-- A call that sweeps before it does its work is done in the same way whether the sweep works
-- or not, as long as the server lets the connection recover and no refusal of a savepoint ends
-- the transaction outside. Two conversations of one call are held side by side; they may differ
-- in the sweep, and in nothing else.

import Mathlib.Tactic.Choose
import TenantAuth.Proofs.Postgres.Midway
import TenantAuth.Proofs.Postgres.Writes
import TenantAuth.Proofs.Program

namespace TenantAuth.Postgres

/-- The statement looks for a session, takes one out or files one. -/
def Statement.isQuery : Statement → Bool
  | findSession _ | consumeSession _ | upsertSession _ => true
  | _ => false

/-- The statement is sent for the sake of the call itself: it is one of its queries, or its
transaction begins or is made to last. -/
def Statement.isPrimary : Statement → Bool
  | begin | commit => true
  | s => s.isQuery

/-- The statement is one of those that a sweep takes. -/
def Statement.isSweep : Statement → Bool
  | savepoint | sweep _ | release => true
  | _ => false

def primary (t : List Sent) : List Sent := t.filter (·.statement.isPrimary)

theorem primary_append (t u : List Sent) : primary (t ++ u) = primary t ++ primary u :=
  List.filter_append ..

theorem Statement.isPrimary_of_isQuery {s : Statement} (h : s.isQuery = true) :
    s.isPrimary = true := by
  cases s <;> first | rfl | cases h

theorem Statement.isQuery_of_not_isPrimary {s : Statement} (h : s.isPrimary = false) :
    s.isQuery = false := by
  cases s <;> first | rfl | cases h

theorem Statement.bounds_of_isQuery {s : Statement} (h : s.isQuery = true) : s.bounds = false := by
  cases s <;> first | rfl | cases h

theorem Statement.isSweep_of_isQuery {s : Statement} (h : s.isQuery = true) :
    s.isSweep = false := by
  cases s <;> first | rfl | cases h

theorem Statement.isPrimary_of_givesUp {s : Statement} (h : s.givesUp = true) :
    s.isPrimary = false := by
  rcases givesUp_iff.mp h with rfl | rfl <;> rfl

theorem Statement.isSweep_of_givesUp {s : Statement} (h : s.givesUp = true) :
    s.isSweep = false := by
  rcases givesUp_iff.mp h with rfl | rfl <;> rfl

theorem primary_eq_self {t : List Sent} (h : ∀ e ∈ t, e.statement.isQuery = true) :
    primary t = t := List.filter_eq_self.mpr fun e he => Statement.isPrimary_of_isQuery (h e he)

theorem primary_eq_nil {t : List Sent} (h : ∀ e ∈ t, e.statement.isPrimary = false) :
    primary t = [] := List.filter_eq_nil_iff.mpr fun e he => by simp [h e he]

/-- As long as the same is asked, the same is replied. -/
def RepliedAlike : List Sent → List Sent → Prop
  | e :: t, e' :: t' => e.statement = e'.statement → e.reply = e'.reply ∧ RepliedAlike t t'
  | _, _ => True

theorem repliedAlike_self (t : List Sent) : RepliedAlike t t := by
  induction t with
  | nil => trivial
  | cons e t ih => exact fun _ => ⟨rfl, ih⟩

/-! ## Programs that only ask -/

/-- What is not a query is not asked for. -/
def Call.offQuery : Call → Prop
  | .send s => s.isQuery = false
  | _ => True

/-- Nothing but queries is sent. -/
def Asks {α : Type} (p : DatabaseProgram α) : Prop := p.Avoids Call.offQuery

section

variable {α : Type} {q : DatabaseProgram α} {t t' : List Sent} {r r' : Option α}

theorem isQuery_of_takes (hq : Asks q) (h : Takes q t r) : ∀ e ∈ t, e.statement.isQuery = true := by
  induction q generalizing t with
  | done a => simp [h.1]
  | broken => simp [h.1]
  | call c next ih =>
    obtain ⟨hc, hnext⟩ := hq
    obtain ⟨reply, rest, rfl, h⟩ := h
    cases c with
    | connect | acquire => exact absurd trivial hc
    | send s =>
      intro e he
      rcases List.mem_cons.mp he with rfl | he
      · simpa [Call.offQuery] using hc
      · exact ih reply (hnext reply) h e he

/-- The replies decide how such a program goes, whatever is said after it. -/
theorem eq_of_repliedAlike (hq : Asks q) (h : Takes q t r) (h' : Takes q t' r') {u u' : List Sent}
    (halike : RepliedAlike (t ++ u) (t' ++ u')) : t = t' ∧ r = r' ∧ RepliedAlike u u' := by
  induction q generalizing t t' with
  | done a =>
    obtain ⟨rfl, rfl⟩ := h
    obtain ⟨rfl, rfl⟩ := h'
    exact ⟨rfl, rfl, halike⟩
  | broken =>
    obtain ⟨rfl, rfl⟩ := h
    obtain ⟨rfl, rfl⟩ := h'
    exact ⟨rfl, rfl, halike⟩
  | call c next ih =>
    obtain ⟨hc, hnext⟩ := hq
    obtain ⟨reply, rest, rfl, h⟩ := h
    obtain ⟨reply', rest', rfl, h'⟩ := h'
    cases c with
    | connect | acquire => exact absurd trivial hc
    | send s =>
      obtain ⟨hreply, hrest⟩ := halike rfl
      cases hreply
      obtain ⟨rfl, rfl, hu⟩ := ih reply (hnext reply) h h' hrest
      exact ⟨rfl, rfl, hu⟩

end

namespace Step

variable {α β : Type}

/-- The step does what the program does, whether a transaction is open or not. -/
structure Does (p : Step StoreError α) (q : DatabaseProgram (Except StoreError α)) : Prop where
  asks : Asks q
  eq : ∀ depth, p ⟨depth, none⟩ = q.andThen fun r => .done (r, ⟨depth, none⟩)

/-- The step only asks. -/
def Plain (p : Step StoreError α) : Prop := ∃ q, p.Does q

theorem plain_pure (a : α) : (pure a : Step StoreError α).Plain :=
  ⟨.done (.ok a), trivial, fun _ => rfl⟩

theorem plain_broken : (broken : Step StoreError α).Plain := ⟨.broken, trivial, fun _ => rfl⟩

theorem plain_lift (x : Except StoreError α) : (lift x : Step StoreError α).Plain := by
  cases x with
  | ok a => exact plain_pure a
  | error e => exact ⟨.done (.error e), trivial, fun _ => rfl⟩

theorem plain_bind {p : Step StoreError α} {f : α → Step StoreError β} (hp : p.Plain)
    (hf : ∀ a, (f a).Plain) : (p >>= f).Plain := by
  obtain ⟨q, hasks, heq⟩ := hp
  choose g hg using hf
  refine ⟨q.andThen (ExceptT.bindCont g), ?_, fun depth => ?_⟩
  · refine Program.avoids_andThen hasks fun r => ?_
    cases r with
    | ok a => exact (hg a).asks
    | error e => trivial
  · change (p ⟨depth, none⟩).andThen _ = _
    rw [heq, Program.andThen_assoc, Program.andThen_assoc]
    congr 1
    funext r
    cases r with
    | ok a => exact (hg a).eq depth
    | error e => rfl

/-- What comes first is a query. -/
theorem does_send (operation : String) (s : Statement) (hs : s.isQuery = true)
    {next : Outcome → Step StoreError α} (hnext : ∀ o, (next o).Plain) :
    ∃ tail, (within operation (send s) >>= next).Does (.call (.send s) tail) := by
  choose g hg using hnext
  refine ⟨fun reply => ExceptT.bindCont g (reply.mapError (·.toStoreError operation)), ?_, ?_⟩
  · refine ⟨by simp [Call.offQuery, hs], fun reply => ?_⟩
    cases reply with
    | ok o => exact (hg o).asks
    | error f => trivial
  · refine fun depth => call_congr fun reply => ?_
    cases reply with
    | ok o => exact (hg o).eq depth
    | error f => rfl

/-! ## Behind a sweep -/

/-- Within the transaction the work is done, and then the transaction ends. -/
theorem goingOn_inside {p : Step StoreError α} {q : DatabaseProgram (Except StoreError α)}
    (h : p.Does q) : goingOn ⟨1, none⟩ p = q.andThen fun x => settle (x, ⟨1, none⟩) := by
  rw [goingOn, h.eq, Program.andThen_assoc]
  rfl

theorem closes_of_takes {p : Step StoreError α} {q : DatabaseProgram (Except StoreError α)}
    (hp : p.Does q) {t : List Sent} {r : Option (Except StoreError α)}
    (h : Takes (goingOn ⟨1, none⟩ p) t r) :
    ∃ asked x ending, t = asked ++ ending ∧ Takes q asked x ∧ Closes x ending r := by
  rw [goingOn_inside hp] at h
  rcases takes_andThen.mp h with ⟨asked, x, ending, rfl, hq, hsettle⟩ | ⟨hq, rfl⟩
  · exact ⟨asked, some x, ending, rfl, hq, closes_of_settle hsettle⟩
  · exact ⟨t, none, [], by simp, hq, .broken⟩

section

variable {x r r' : Option (Except StoreError α)} {ending ending' : List Sent}

theorem Closes.isSweep_eq (h : Closes x ending r) : ∀ e ∈ ending, e.statement.isSweep = false := by
  cases h <;> simp [Statement.isSweep]

/-- What is replied to the commit decides. -/
theorem Closes.same (h : Closes x ending r) (h' : Closes x ending' r')
    (halike : RepliedAlike (primary ending) (primary ending')) :
    primary ending = primary ending' ∧ r = r' := by
  cases h with
  | broken =>
    cases h'
    exact ⟨rfl, rfl⟩
  | rolledBack e reply =>
    cases h'
    exact ⟨rfl, rfl⟩
  | committed a o =>
    cases h' with
    | committed _ o' =>
      cases (halike rfl).1
      exact ⟨rfl, rfl⟩
    | uncommitted _ f reply => cases (halike rfl).1
  | uncommitted a f reply =>
    cases h' with
    | committed _ o' => cases (halike rfl).1
    | uncommitted _ f' reply' =>
      cases (halike rfl).1
      exact ⟨rfl, rfl⟩

/-- Whatever is said before a commit is none of the ending. -/
theorem Closes.eq_nil (h : Closes x ending r) {before rest : List Sent} {e : Sent}
    (heq : ending = before ++ e :: rest)
    (he : e.statement.isQuery = true ∨ e.statement = .commit) : before = [] := by
  cases before with
  | nil => rfl
  | cons e' before =>
    cases h with
    | broken | committed | rolledBack => simp at heq
    | uncommitted a f reply =>
      obtain ⟨-, heq⟩ := List.cons.inj heq
      rcases List.append_eq_cons_iff.mp heq.symm with ⟨rfl, heq⟩ | ⟨before, rfl, heq⟩
      · cases heq
        rcases he with he | he <;> cases he
      · simp at heq

end

/-- After the sweep the operation goes on over the link that the sweep leaves. -/
theorem takes_midway_sweep [TransactionManager] {now : Instant} {p : Step StoreError α}
    {t : List Sent} {r : Option (Except StoreError α)}
    (h : Takes (midway (Sessions.sweepInside now >>= fun _ => p)) t r) :
    ∃ swept l rest, t = swept ++ rest ∧
      Takes (Sessions.sweepInside now ⟨1, none⟩) swept (some (.ok (), l)) ∧
      Takes (goingOn l p) rest r := by
  rw [midway_eq_goingOn, goingOn_bind] at h
  rcases takes_andThen.mp h with ⟨swept, ⟨x, l⟩, rest, rfl, h₁, h₂⟩ | ⟨h₁, -⟩
  · obtain ⟨l', heq, -⟩ := Sessions.sweep_cases h₁
    cases heq
    exact ⟨swept, l, rest, rfl, h₁, h₂⟩
  · obtain ⟨l', heq, -⟩ := Sessions.sweep_cases h₁
    cases heq

end Step

open Step

/-! ## The sweep -/

/-- Until the first query no rollback is refused: what a failed sweep leaves behind is put in
order again. -/
def Recovers (t : List Sent) : Prop :=
  ∀ e ∈ t.takeWhile fun e => !e.statement.isQuery,
    e.statement = .rollback ∨ e.statement = .rollbackToSavepoint → ∃ o, e.reply = .ok o

/-- The sweep is not refused anything. -/
def SweepWorks (t : List Sent) : Prop := ∀ s f, s.isSweep = true → ⟨s, .error f⟩ ∉ t

/-- A sweep that leaves the transaction open. If it was refused anything but the savepoint, it was
taken back. -/
structure SweptInside (t : List Sent) : Prop where
  inside : ∀ e ∈ t, e.statement.bounds = false
  undone : ∀ s f, s.isSweep = true → s ≠ .savepoint → ⟨s, .error f⟩ ∈ t →
    ∃ o, ⟨.rollbackToSavepoint, .ok o⟩ ∈ t

section

variable {m : TransactionManager} {now : Instant} {swept t : List Sent} {l : Link}

theorem isPrimary_of_swept
    (h : Takes (Sessions.sweepInside now ⟨1, none⟩) swept (some (.ok (), l))) :
    ∀ e ∈ swept, e.statement.isPrimary = false := by
  obtain ⟨l', -, hcases⟩ := Sessions.sweep_cases h
  rcases hcases with ⟨f, posted, rfl, hposted, -⟩ | ⟨o₁, o₂, o₃, rfl, -⟩ | ⟨o₁, f, reply, rfl, -⟩ |
    ⟨o₁, o₂, f, reply, rfl, -⟩
  · intro e he
    rcases List.mem_cons.mp he with rfl | he
    · rfl
    · exact Statement.isPrimary_of_givesUp (givesUp_of_posted hposted e he)
  all_goals simp [Statement.isPrimary, Statement.isQuery]

/-- What a refused statement of the sweep leaves behind is rolled back to the savepoint, and the
server has taken that. -/
theorem sweptInside_of_takes
    (h : Takes (Sessions.sweepInside now ⟨1, none⟩) swept (some (.ok (), l)))
    (howed : l.owed = none) (hs : OuterStays swept) : l = ⟨1, none⟩ ∧ SweptInside swept := by
  obtain ⟨⟨owed, heq⟩, haside⟩ := Sessions.sweep_aside hs h
  cases heq
  cases howed
  refine ⟨rfl, fun e he => Statement.bounds_of_isAside (haside e he), fun s f hsweep hne hmem => ?_⟩
  obtain ⟨l', heq, hcases⟩ := Sessions.sweep_cases h
  cases heq
  rcases hcases with ⟨f', posted, rfl, hposted, -⟩ | ⟨o₁, o₂, o₃, rfl, -⟩ |
    ⟨o₁, f', reply, rfl, howed⟩ | ⟨o₁, o₂, f', reply, rfl, howed⟩
  · rcases List.mem_cons.mp hmem with heq | hmem
    · cases heq
      exact absurd rfl hne
    · rw [Statement.isSweep_of_givesUp (givesUp_of_posted hposted _ hmem)] at hsweep
      cases hsweep
  · simp at hmem
  all_goals
    cases reply with
    | error f'' => cases howed
    | ok o => exact ⟨o, by simp⟩

/-- The sweep leaves nothing owing. -/
def Clear [TransactionManager] (now : Instant) (t : List Sent) : Prop :=
  ∀ o swept l rest, t = ⟨.begin, .ok o⟩ :: (swept ++ rest) →
    Takes (Sessions.sweepInside now ⟨1, none⟩) swept (some (.ok (), l)) → l.owed = none

/-- As long as nothing is asked, whatever gives up a transaction is taken. -/
theorem Recovers.reply {before rest : List Sent} (h : Recovers (before ++ rest))
    (hbefore : ∀ e ∈ before, e.statement.isQuery = false) {e : Sent} (he : e ∈ before)
    (hgivesUp : e.statement.givesUp = true) : ∃ o, e.reply = .ok o := by
  refine h e ?_ (Statement.givesUp_iff.mp hgivesUp)
  rw [List.takeWhile_append_of_pos fun d hd => by simp [hbefore d hd]]
  exact List.mem_append_left _ he

theorem clear_of_recovers (h : Recovers t) : Clear now t := by
  rintro o swept l rest rfl hswept
  have hbefore : ∀ e ∈ (⟨.begin, .ok o⟩ :: swept : List Sent), e.statement.isQuery = false := by
    intro e he
    rcases List.mem_cons.mp he with rfl | he
    · rfl
    · exact Statement.isQuery_of_not_isPrimary (isPrimary_of_swept hswept e he)
  rw [← List.cons_append] at h
  have hreply : ∀ e ∈ swept, e.statement.givesUp = true → ∃ o, e.reply = .ok o := fun e he =>
    h.reply hbefore (List.mem_cons_of_mem _ he)
  obtain ⟨l', heq, hcases⟩ := Sessions.sweep_cases hswept
  cases heq
  rcases hcases with ⟨f, posted, rfl, hposted, rfl⟩ | ⟨o₁, o₂, o₃, rfl, rfl⟩ |
    ⟨o₁, f, reply, rfl, rfl⟩ | ⟨o₁, o₂, f, reply, rfl, rfl⟩
  · exact owedBy_eq_none_iff.mpr fun e he =>
      hreply e (List.mem_cons_of_mem _ he) (givesUp_of_posted hposted e he)
  · rfl
  · exact owedBy_eq_none_iff.mpr (by simpa using hreply ⟨.rollbackToSavepoint, reply⟩ (by simp) rfl)
  · exact owedBy_eq_none_iff.mpr (by simpa using hreply ⟨.rollbackToSavepoint, reply⟩ (by simp) rfl)

theorem clear_of_sweepWorks (h : SweepWorks t) : Clear now t := by
  rintro o swept l rest rfl hswept
  obtain ⟨l', heq, hcases⟩ := Sessions.sweep_cases hswept
  cases heq
  rcases hcases with ⟨f, posted, rfl, -, rfl⟩ | ⟨o₁, o₂, o₃, rfl, rfl⟩ |
    ⟨o₁, f, reply, rfl, rfl⟩ | ⟨o₁, o₂, f, reply, rfl, rfl⟩
  · exact absurd (by simp) (h .savepoint f rfl)
  · rfl
  · exact absurd (by simp) (h (.sweep now) f rfl)
  · exact absurd (by simp) (h .release f rfl)

theorem SweepWorks.savepointsHold (h : SweepWorks t) : SavepointsHold t := by
  rintro ⟨s, reply⟩ he rfl
  cases reply with
  | ok o => exact ⟨o, rfl⟩
  | error f => exact absurd he (h .savepoint f rfl)

end

/-! ## With the sweep and without it -/

/-- What the call does for itself: it asks, or makes its transaction last. -/
def Sent.isWork (e : Sent) : Prop := e.statement.isQuery = true ∨ e.statement = .commit

theorem Sent.not_isWork_of_isPrimary {e : Sent} (h : e.statement.isPrimary = false) :
    ¬ e.isWork := by
  rintro (hquery | hcommit)
  · rw [Statement.isPrimary_of_isQuery hquery] at h
    cases h
  · rw [hcommit] at h
    cases h

/-- The sweep was taken back before the call did anything else. -/
structure TakenBack (t : List Sent) : Prop where
  asked : ∃ e ∈ t, e.statement.isQuery = true
  before : ∀ before e rest, t = before ++ e :: rest → e.isWork →
    ∃ o, ⟨.rollbackToSavepoint, .ok o⟩ ∈ before

/-- What is left the same, of a conversation `t` that ends with `r`, in one that ends with `r'`
and in which the sweep works. -/
structure PassedOver {α : Type} (t t' : List Sent) (r r' : Option α) : Prop where
  /-- The same is asked, with the same parameters, in the same transaction. -/
  primary : primary t = primary t'
  answer : r = r'
  /-- The transaction is open whenever the call does something in it. -/
  inside : ∀ before e rest, t = before ++ e :: rest → e.isWork →
    (Ledger.after before).levels ≠ []
  takenBack : ∀ s f, s.isSweep = true → s ≠ .savepoint → ⟨s, .error f⟩ ∈ t → TakenBack t

/-- How an operation may go that sweeps and then does what `q` does. -/
inductive SweptCourse {α : Type} (operation : String) (q : DatabaseProgram (Except StoreError α)) :
    List Sent → Option (Except StoreError α) → Prop
  | unopened (f : Failure) {posted : List Sent}
      (hposted : ∀ e ∈ posted, e.statement.givesUp = true) :
      SweptCourse operation q (⟨.begin, .error f⟩ :: posted)
        (some (.error (f.toStoreError operation)))
  | inside (o : Outcome) {swept asked ending : List Sent} {x r : Option (Except StoreError α)}
      (hprimary : ∀ e ∈ swept, e.statement.isPrimary = false) (hswept : SweptInside swept)
      (hasked : Takes q asked x) (hending : Closes x ending r) :
      SweptCourse operation q (⟨.begin, .ok o⟩ :: (swept ++ (asked ++ ending))) r

section

variable {m : TransactionManager} {α : Type} {operation : String} {now : Instant}
  {p : Step StoreError α} {q : DatabaseProgram (Except StoreError α)} {t t' : List Sent}
  {r r' : Option (Except StoreError α)}

theorem sweptCourse_of_takes (hp : p.Does q) (hclear : Clear now t) (hs : OuterStays t)
    (h : Takes (opening operation (Sessions.sweepInside now >>= fun _ => p)) t r) :
    SweptCourse operation q t r := by
  rcases takes_opening h with ⟨f, posted, rfl, hposted, rfl⟩ | ⟨o, begun, rfl, hbegun⟩
  · exact .unopened f hposted
  · obtain ⟨swept, l, rest, rfl, hsweep, hrest⟩ := takes_midway_sweep hbegun
    obtain ⟨rfl, hswept⟩ :=
      sweptInside_of_takes hsweep (hclear o swept l rest rfl hsweep) hs.body
    obtain ⟨asked, x, ending, rfl, hasked, hending⟩ := closes_of_takes hp hrest
    exact .inside o (isPrimary_of_swept hsweep) hswept hasked hending

/-- What stands before a statement that is not of the first part holds all of that part. -/
theorem behind_of_not_mem {first second before rest : List Sent} {e : Sent}
    (heq : first ++ second = before ++ e :: rest) (he : e ∉ first) :
    ∃ between, before = first ++ between ∧ second = between ++ e :: rest := by
  rcases List.append_eq_append_iff.mp heq with ⟨between, rfl, hsecond⟩ | ⟨tail, rfl, htail⟩
  · exact ⟨between, rfl, hsecond⟩
  · cases tail with
    | nil => exact ⟨[], by simp, htail.symm⟩
    | cons e' tail =>
      cases htail
      exact absurd (by simp) he

/-- Between the sweep and whatever the call does for itself there are only queries. -/
theorem behind_of_isWork (hq : Asks q) {o : Outcome} {swept asked ending before rest : List Sent}
    {e : Sent} {x : Option (Except StoreError α)}
    (hprimary : ∀ e ∈ swept, e.statement.isPrimary = false) (hasked : Takes q asked x)
    (hending : Closes x ending r) (he : e.isWork)
    (heq : (⟨.begin, .ok o⟩ :: (swept ++ (asked ++ ending)) : List Sent) = before ++ e :: rest) :
    ∃ between, before = ⟨.begin, .ok o⟩ :: (swept ++ between) ∧
      ∀ d ∈ between, d.statement.isQuery = true := by
  cases before with
  | nil =>
    cases heq
    rcases he with he | he <;> cases he
  | cons e' before =>
    obtain ⟨rfl, htail⟩ := List.cons.inj heq
    have hnot : e ∉ swept := fun hmem => Sent.not_isWork_of_isPrimary (hprimary e hmem) he
    obtain ⟨between, rfl, hsplit⟩ := behind_of_not_mem htail hnot
    refine ⟨between, rfl, fun d hd => isQuery_of_takes hq hasked d ?_⟩
    rcases List.append_eq_append_iff.mp hsplit with ⟨v, rfl, hv⟩ | ⟨v, rfl, hv⟩
    · rw [hending.eq_nil hv he, List.append_nil] at hd
      exact hd
    · exact List.mem_append_left _ hd

theorem primary_begun {o : Outcome} {swept rest : List Sent}
    (hprimary : ∀ e ∈ swept, e.statement.isPrimary = false) :
    primary (⟨.begin, .ok o⟩ :: (swept ++ rest)) = ⟨.begin, .ok o⟩ :: primary rest := by
  change (⟨.begin, .ok o⟩ : Sent) :: primary (swept ++ rest) = _
  rw [primary_append, primary_eq_nil hprimary, List.nil_append]

theorem primary_unbegun {f : Failure} {posted : List Sent}
    (hposted : ∀ e ∈ posted, e.statement.givesUp = true) :
    primary (⟨.begin, .error f⟩ :: posted) = [⟨.begin, .error f⟩] := by
  change (⟨.begin, .error f⟩ : Sent) :: primary posted = _
  rw [primary_eq_nil fun e he => Statement.isPrimary_of_givesUp (hposted e he)]

/-- What the sweep was refused, it was refused in its own part. -/
theorem mem_swept {o : Outcome} {swept rest : List Sent} {s : Statement} {f : Failure}
    (hrest : ∀ e ∈ rest, e.statement.isSweep = false) (hs : s.isSweep = true)
    (hmem : ⟨s, .error f⟩ ∈ (⟨.begin, .ok o⟩ :: (swept ++ rest) : List Sent)) :
    ⟨s, .error f⟩ ∈ swept := by
  rcases List.mem_cons.mp hmem with heq | hmem
  · cases heq
  rcases List.mem_append.mp hmem with hmem | hmem
  · exact hmem
  · have hfalse := hrest _ hmem
    rw [hs] at hfalse
    cases hfalse

/-- Where the transaction could not be opened, nothing else is said. -/
theorem passedOver_unopened {f : Failure} {posted posted' : List Sent}
    (hposted : ∀ e ∈ posted, e.statement.givesUp = true)
    (hposted' : ∀ e ∈ posted', e.statement.givesUp = true) (answer : Option (Except StoreError α)) :
    PassedOver (⟨.begin, .error f⟩ :: posted) (⟨.begin, .error f⟩ :: posted') answer answer := by
  have hsaid : ∀ e ∈ (⟨.begin, .error f⟩ :: posted : List Sent), e.statement = .begin ∨
      e.statement.givesUp = true := fun e he =>
    (List.mem_cons.mp he).imp (congrArg Sent.statement) (hposted e)
  refine ⟨by rw [primary_unbegun hposted, primary_unbegun hposted'], rfl, ?_, ?_⟩
  · intro before e rest heq he
    rcases hsaid e (by simp [heq]) with hbegin | hgivesUp
    · rcases he with he | he <;> rw [hbegin] at he <;> cases he
    · exact absurd he (Sent.not_isWork_of_isPrimary (Statement.isPrimary_of_givesUp hgivesUp))
  · intro s f' hs _ hmem
    rcases hsaid _ hmem with hbegin | hgivesUp
    · cases hbegin
      cases hs
    · rw [Statement.isSweep_of_givesUp hgivesUp] at hs
      cases hs

theorem SweptCourse.passedOver {s : Statement}
    {tail : Call.Reply (.send s) → DatabaseProgram (Except StoreError α)}
    (hq : Asks (.call (.send s) tail)) (h : SweptCourse operation (.call (.send s) tail) t r)
    (h' : SweptCourse operation (.call (.send s) tail) t' r')
    (halike : RepliedAlike (primary t) (primary t')) : PassedOver t t' r r' := by
  cases h with
  | @unopened f posted hposted =>
    rw [primary_unbegun hposted] at halike
    cases h' with
    | @unopened f' posted' hposted' =>
      rw [primary_unbegun hposted'] at halike
      cases (halike rfl).1
      exact passedOver_unopened hposted hposted' _
    | inside o' hprimary' =>
      rw [primary_begun hprimary'] at halike
      cases (halike rfl).1
  | @inside o swept asked ending x _ hprimary hswept hasked hending =>
    rw [primary_begun hprimary] at halike
    cases h' with
    | @unopened f' posted' hposted' =>
      rw [primary_unbegun hposted'] at halike
      cases (halike rfl).1
    | @inside o' swept' asked' ending' x' _ hprimary' hswept' hasked' hending' =>
      have hqueries := isQuery_of_takes hq hasked
      rw [primary_begun hprimary', primary_append, primary_append, primary_eq_self hqueries,
        primary_eq_self (isQuery_of_takes hq hasked')] at halike
      obtain ⟨hbegin, hbehind⟩ := halike rfl
      cases hbegin
      obtain ⟨rfl, rfl, hclose⟩ := eq_of_repliedAlike hq hasked hasked' hbehind
      obtain ⟨hprimaries, rfl⟩ := hending.same hending' hclose
      refine ⟨?_, rfl, ?_, ?_⟩
      · rw [primary_begun hprimary, primary_begun hprimary', primary_append, primary_append,
          hprimaries]
      · intro before e rest heq he
        obtain ⟨between, rfl, hbetween⟩ := behind_of_isWork hq hprimary hasked hending he heq
        refine (Ledger.after_inside fun d hd => ?_).1
        rcases List.mem_append.mp hd with hd | hd
        · exact hswept.inside d hd
        · exact Statement.bounds_of_isQuery (hbetween d hd)
      · intro s' f hs hne hmem
        have hrest : ∀ e ∈ asked ++ ending, e.statement.isSweep = false := by
          intro e he
          rcases List.mem_append.mp he with he | he
          · exact Statement.isSweep_of_isQuery (hqueries e he)
          · exact hending.isSweep_eq e he
        obtain ⟨o', hback⟩ := hswept.undone s' f hs hne (mem_swept hrest hs hmem)
        constructor
        · obtain ⟨reply, rest, rfl, -⟩ := hasked
          exact ⟨⟨s, reply⟩, by simp [heard], hqueries _ (by simp [heard])⟩
        · intro before e rest heq he
          obtain ⟨between, rfl, -⟩ := behind_of_isWork hq hprimary hasked hending he heq
          exact ⟨o', by simp [hback]⟩

end

/-! ## The calls -/

theorem plain_upsert (s : Session) : (Sessions.upsert s).Plain := by
  obtain ⟨tail, h⟩ := does_send "upsert_session" (.upsertSession s) rfl fun _ => plain_pure ()
  exact ⟨_, h⟩

theorem plain_exchange (newHash : String) (newId : SessionId) (now : Instant)
    (consumed : Outcome) : (Sessions.exchange newHash newId now consumed).Plain := by
  unfold Sessions.exchange
  cases consumed.rows.head? with
  | none => exact plain_pure none
  | some row =>
    refine plain_bind (plain_lift _) fun s => ?_
    by_cases hexpired : s.isExpiredAt now
    · simp only [hexpired, if_true]
      exact plain_pure _
    · simp only [hexpired]
      cases Session.fresh? newId s.user newHash now with
      | none => exact plain_broken
      | some next => exact plain_bind (plain_upsert next) fun _ => plain_pure _

/-- The call sweeps before it does its work. -/
def SweepsFirst : SessionCall → Prop
  | .replace _ | .findByHash .. | .rotate .. => True
  | _ => False

/-- Behind the sweep the call goes on with `p` in the same transaction, and it reads its answer
off what comes of that. -/
structure GoesOnWith [TransactionManager] {α : Type} (c : SessionCall)
    (operation operation' : String) (now : Instant) (p : Step StoreError α)
    (read : Except StoreError α → c.Reply) : Prop where
  eq : Sessions.answer c = (connected operation (transaction operation'
    (Sessions.sweepInside now >>= fun _ => p))).andThen fun x => .done (read x)

/-- The session that a row of the outcome holds, if there is a row. -/
def sessionFound (o : Outcome) : Except StoreError (Option Session) :=
  match o.rows.head? with
  | none => .ok none
  | some row => (sessionOfRow row).map some

theorem finding_eq (o : Outcome) (l : Link) :
    (match o.rows.head? with
      | none => pure none
      | some row => do
        let s ← lift (sessionOfRow row)
        pure (some s) : Step StoreError (Option Session)) l = .done (sessionFound o, l) := by
  unfold sessionFound
  cases o.rows.head? with
  | none => rfl
  | some row =>
    dsimp only
    cases sessionOfRow row <;> rfl

theorem goesOnWith_findByHash [TransactionManager] (hash : String) (now : Instant) :
    GoesOnWith (.findByHash hash now) "find_by_hash" "find_by_hash" now
      (within "find_by_hash" (send (.findSession hash))) fun x => x.bind sessionFound := by
  constructor
  change connected _ (transaction _ _ >>= _) = _
  rw [connected_eq, connected_eq, Program.call_andThen]
  refine call_congr fun reply => ?_
  cases reply with
  | error f => rfl
  | ok u =>
    refine (Program.andThen_assoc ..).trans (Eq.trans ?_ (Program.andThen_assoc ..).symm)
    congr 1
    funext ⟨x, l⟩
    cases x with
    | error e => rfl
    | ok o => exact congrArg (Program.andThen · _) (finding_eq o l)

theorem goesOnWith_of_sweepsFirst [TransactionManager] {c : SessionCall} (hc : SweepsFirst c) :
    ∃ (α : Type) (operation operation' : String) (now : Instant) (p : Step StoreError α)
      (read : Except StoreError α → c.Reply) (s : Statement)
      (tail : Call.Reply (.send s) → DatabaseProgram (Except StoreError α)),
      GoesOnWith c operation operation' now p read ∧ p.Does (.call (.send s) tail) := by
  cases c with
  | replace s =>
    obtain ⟨tail, h⟩ := does_send "upsert_session" (.upsertSession s) rfl fun _ => plain_pure ()
    exact ⟨_, _, _, _, _, id, _, tail, ⟨(Program.andThen_done _).symm⟩, h⟩
  | findByHash hash now =>
    obtain ⟨tail, h⟩ := does_send "find_by_hash" (.findSession hash) rfl plain_pure
    rw [bind_pure] at h
    exact ⟨_, _, _, _, _, _, _, tail, goesOnWith_findByHash hash now, h⟩
  | rotate hash newHash newId now =>
    obtain ⟨tail, h⟩ := does_send "consume_session" (.consumeSession hash) rfl
      (plain_exchange newHash newId now)
    exact ⟨_, _, _, _, _, id, _, tail, ⟨(Program.andThen_done _).symm⟩, h⟩
  | _ => cases hc

theorem PassedOver.map {α β : Type} {t t' : List Sent} {r r' : Option α}
    (h : PassedOver t t' r r') (read : α → β) : PassedOver t t' (r.map read) (r'.map read) where
  primary := h.primary
  answer := congrArg (Option.map read) h.answer
  inside := h.inside
  takenBack := h.takenBack

/-- Whatever a sweep is refused, the call says the same and answers the same as with a sweep that
works, if it hears the same: with a client that leaves the transaction outside open where a
savepoint is refused, and with any client where none is refused. -/
theorem a_failing_sweep_is_passed_over (m : TransactionManager) (server server' : Server)
    (c : SessionCall) (hc : SweepsFirst c) (hacquires : server.acquires = server'.acquires)
    (houter : m.LeavesOuter ∨ SavepointsHold (server.talk (Sessions.answer c)).2)
    (halike : RepliedAlike (primary (server.talk (Sessions.answer c)).2)
      (primary (server'.talk (Sessions.answer c)).2))
    (hrecovers : Recovers (server.talk (Sessions.answer c)).2)
    (hworks : SweepWorks (server'.talk (Sessions.answer c)).2) :
    PassedOver (server.talk (Sessions.answer c)).2 (server'.talk (Sessions.answer c)).2
      (server.talk (Sessions.answer c)).1 (server'.talk (Sessions.answer c)).1 := by
  obtain ⟨α, operation, operation', now, p, read, s, tail, heq, hp⟩ := goesOnWith_of_sweepsFirst hc
  rw [heq.eq, talk_read, talk_connected] at houter hrecovers hworks
  rw [heq.eq, talk_read, talk_read, talk_connected, talk_connected] at halike ⊢
  rw [hacquires] at halike houter hrecovers ⊢
  refine PassedOver.map ?_ read
  cases hconnection : server'.acquires with
  | error f => exact ⟨rfl, rfl, by simp, by simp⟩
  | ok u =>
    rw [hconnection] at halike houter hrecovers hworks
    exact SweptCourse.passedOver hp.asks
      (sweptCourse_of_takes hp (clear_of_recovers hrecovers) houter (server.takes_talk _))
      (sweptCourse_of_takes hp (clear_of_sweepWorks hworks) (Or.inr hworks.savepointsHold)
        (server'.takes_talk _))
      halike

/-- A row for a session that ends two thousand nanoseconds into 1970. -/
def rowsFor : Statement → List Row
  | .findSession hash | .consumeSession hash =>
    [⟨[("id", .uuid (.ofNat 1)), ("user_id", .uuid (.ofNat 2)), ("token_hash", .text hash),
      ("expires_at", .time (Instant.epoch.addCapped 2000)), ("created_at", .time .epoch)]⟩]
  | _ => []

/-- A server that refuses some statements and carries out the others. -/
def refusingServer (refused : Statement → Bool) : Server where
  connects := .ok ()
  acquires := .ok ()
  replies _ s :=
    if refused s then .error (.server "40001" "could not serialize") else .ok ⟨rowsFor s, 1⟩

section

variable {α : Type} {refused : Statement → Bool} (p : DatabaseProgram α)

theorem reply_of_not_refused {e : Sent} (he : e ∈ ((refusingServer refused).talk p).2)
    (h : refused e.statement = false) : ∃ o, e.reply = .ok o := by
  obtain ⟨past, hreply⟩ := Server.replied_talk _ p e he
  exact ⟨_, hreply.trans (if_neg (by simp [h]))⟩

theorem recovers_refusingServer
    (h : refused .rollback = false ∧ refused .rollbackToSavepoint = false) :
    Recovers ((refusingServer refused).talk p).2 := by
  intro e he hback
  refine reply_of_not_refused p (List.takeWhile_subset _ he) ?_
  rcases hback with hback | hback <;> rw [hback]
  · exact h.1
  · exact h.2

theorem sweepWorks_refusingServer (h : ∀ s, s.isSweep = true → refused s = false) :
    SweepWorks ((refusingServer refused).talk p).2 := by
  intro s f hs hmem
  obtain ⟨o, heq⟩ := reply_of_not_refused p hmem (h s hs)
  cases heq

end

section

open TransactionManager.CountingFirst

def plainRotation : SessionCall := .rotate "h" "k" ⟨.ofNat 3⟩ (Instant.epoch.addCapped 1000)

/-- A rotation whose sweep cannot be made to last gives up the sweep and goes on. -/
theorem a_refused_release_is_passed_over :
    (∃ f, ⟨.release, .error f⟩ ∈
      ((refusingServer (· == .release)).talk (Sessions.answer plainRotation)).2) ∧
    PassedOver ((refusingServer (· == .release)).talk (Sessions.answer plainRotation)).2
      ((refusingServer fun _ => false).talk (Sessions.answer plainRotation)).2
      ((refusingServer (· == .release)).talk (Sessions.answer plainRotation)).1
      ((refusingServer fun _ => false).talk (Sessions.answer plainRotation)).1 :=
  ⟨⟨_, .tail _ (.tail _ (.tail _ (.head _)))⟩,
    a_failing_sweep_is_passed_over _ (refusingServer (· == .release)) (refusingServer fun _ => false)
      plainRotation trivial rfl (Or.inl rfl) (repliedAlike_self _)
      (recovers_refusingServer _ ⟨rfl, rfl⟩) (sweepWorks_refusingServer _ fun _ _ => rfl)⟩

end

/-! ## Clients that let the transaction outside go -/

/-- Where no transaction is open, a session is filed and nothing is committed. -/
theorem takes_upsert_unopened {s : Session} {owed : Option Failure} {t : List Sent}
    {r : Option (Except StoreError Unit)} (h : Takes (goingOn ⟨0, owed⟩ (Sessions.upsert s)) t r) :
    ∀ e ∈ t, e.statement = .upsertSession s := by
  cases owed with
  | some f =>
    obtain ⟨rfl, rfl⟩ := h
    simp
  | none =>
    obtain ⟨reply, rest, rfl, h⟩ := h
    rcases reply with f | o <;> obtain ⟨rfl, rfl⟩ := h <;> simp [heard]

/-- The promise is needed: without it, all is rolled back where the savepoint of the sweep is
refused, the session is filed outside of any transaction, and no commit is sent. -/
theorem no_commit_of_refused_savepoint [m : TransactionManager] (hm : ¬ m.LeavesOuter) {s : Session}
    {o : Outcome} {f : Failure} {t : List Sent} {r : Option (Except StoreError Unit)}
    (h : Takes (Sessions.answer (.replace s)) (⟨.begin, .ok o⟩ :: ⟨.savepoint, .error f⟩ :: t) r) :
    ∀ e ∈ t, e.statement.givesUp = true ∨ e.statement = .upsertSession s := by
  have hleft : m.left 1 = 0 := by
    have hle := m.left_le 1
    unfold TransactionManager.LeavesOuter at hm
    omega
  obtain ⟨acquired, rest, hrest, h⟩ := h
  rcases acquired with f' | ⟨⟩
  · cases hrest.trans h.1
  cases hrest
  rcases takes_opening h with ⟨f', posted, heq, -⟩ | ⟨o', rest, heq, hmidway⟩ <;> cases heq
  rw [midway_eq_goingOn, goingOn_bind] at hmidway
  rcases takes_andThen.mp hmidway with ⟨t₁, ⟨x, l⟩, t₂, heq, hswept, hrest⟩ | ⟨hswept, -⟩
  · obtain ⟨l', hend, hcases⟩ := Sessions.sweep_cases hswept
    cases hend
    rcases hcases with ⟨f', posted, rfl, hposted, rfl⟩ | ⟨o₁, o₂, o₃, rfl, -⟩ |
      ⟨o₁, f', reply, rfl, -⟩ | ⟨o₁, o₂, f', reply, rfl, -⟩ <;> cases heq
    rw [hleft] at hrest
    intro e he
    rcases List.mem_append.mp he with he | he
    · exact Or.inl (givesUp_of_posted hposted e he)
    · exact Or.inr (takes_upsert_unopened hrest e he)
  · obtain ⟨_, hend, -⟩ := Sessions.sweep_cases hswept
    cases hend

end TenantAuth.Postgres
