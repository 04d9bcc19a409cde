-- A rotation that takes out a session that is over. It files nothing in its place, and the
-- deletion is made to last, so that no secret is left behind that works.

import TenantAuth.Proofs.Postgres.Sweeping
import TenantAuth.Proofs.Postgres.Tokens
import TenantAuth.Proofs.Session.Owner

namespace TenantAuth.Postgres

namespace Step

variable {α : Type}

/-- A statement behind a sweep is sent only where the sweep leaves nothing owing. -/
theorem takes_goingOn_send {l : Link} {operation : String} {s : Statement}
    {next : Outcome → Step StoreError α} {t : List Sent} {r : Option (Except StoreError α)}
    (h : Takes (goingOn l (within operation (send s) >>= next)) t r) :
    (∃ e, Takes (settle (.error e, ⟨l.depth, none⟩)) t r) ∨
    (∃ f e rest, t = ⟨s, .error f⟩ :: rest ∧
      Takes (settle (.error e, ⟨l.depth, none⟩)) rest r) ∨
    (∃ o rest, l.owed = none ∧ t = ⟨s, .ok o⟩ :: rest ∧ Takes (goingOn l (next o)) rest r) := by
  rw [goingOn_bind] at h
  rcases takes_andThen.mp h with ⟨sent, ⟨x, l'⟩, rest, rfl, h₁, h₂⟩ | ⟨h₁, -⟩
  · obtain ⟨depth, owed⟩ := l
    rcases takes_send h₁ with ⟨f, rfl, rfl, heq⟩ | ⟨f, rfl, rfl, heq⟩ | ⟨o, rfl, rfl, heq⟩ <;>
      cases heq
    · exact Or.inl ⟨_, h₂⟩
    · exact Or.inr (Or.inl ⟨f, _, rest, rfl, h₂⟩)
    · exact Or.inr (Or.inr ⟨o, rest, rfl, rfl, h₂⟩)
  · rcases takes_send h₁ with ⟨_, _, _, heq⟩ | ⟨_, _, _, heq⟩ | ⟨_, _, _, heq⟩ <;> cases heq

/-- Outside of a transaction there is nothing to end. -/
theorem settle_outside (x : Except StoreError α) : settle (x, ⟨0, none⟩) = .done x := by
  cases x <;> rfl

/-- To end a transaction nothing else is sent. -/
theorem bounds_of_settle {depth : Nat} (hdepth : depth ≤ 1) {x : Except StoreError α}
    {t : List Sent} {r : Option (Except StoreError α)} (h : Takes (settle (x, ⟨depth, none⟩)) t r) :
    ∀ e ∈ t, e.statement.bounds = true := by
  obtain rfl | rfl : depth = 0 ∨ depth = 1 := by omega
  · rw [settle_outside] at h
    simp [h.1]
  · cases closes_of_settle h <;> simp [Statement.bounds]

end Step

open Step

namespace Sessions

section

variable {hash newHash : String} {newId : SessionId} {now : Instant} {o : Outcome}

/-- Of a session that is over nothing more is made. -/
theorem exchange_late {row : Row} {consumed : Session} (hrow : o.rows.head? = some row)
    (hread : row.session = .ok consumed) (hover : consumed.expiresAt ≤ now) :
    exchange newHash newId now o = pure (some consumed) := by
  have hsession : sessionOfRow row = .ok consumed := by
    rw [sessionOfRow, hread]
    rfl
  unfold exchange
  rw [hrow]
  dsimp only
  rw [hsession]
  change (if consumed.isExpiredAt now then _ else _) = _
  rw [if_pos (by simpa [Session.isExpiredAt] using hover)]

/-- A session is taken out once only. -/
theorem not_consumed_of_exchange {depth : Nat} (hdepth : depth ≤ 1) {t : List Sent}
    {r : Option (Except StoreError (Option Session))}
    (h : Takes (goingOn ⟨depth, none⟩ (exchange newHash newId now o)) t r) :
    ∀ e ∈ t, e.statement ≠ .consumeSession hash := by
  have hsettle : ∀ {x : Except StoreError (Option Session)} {t r},
      Takes (settle (x, ⟨depth, none⟩)) t r → ∀ e ∈ t, e.statement ≠ .consumeSession hash := by
    intro x t r h e he heq
    have hbounds := bounds_of_settle hdepth h e he
    rw [heq] at hbounds
    cases hbounds
  unfold exchange at h
  cases hrow : o.rows.head? with
  | none =>
    rw [hrow] at h
    change Takes (settle (.ok none, _)) t r at h
    exact hsettle h
  | some row =>
    rw [hrow] at h
    dsimp only at h
    cases hread : sessionOfRow row with
    | error e =>
      rw [hread] at h
      change Takes (settle (.error e, _)) t r at h
      exact hsettle h
    | ok s =>
      rw [hread] at h
      change Takes (goingOn _ (if s.isExpiredAt now then _ else _)) t r at h
      by_cases hover : s.isExpiredAt now
      · rw [if_pos hover] at h
        change Takes (settle (.ok (some s), _)) t r at h
        exact hsettle h
      · rw [if_neg hover] at h
        cases hfresh : Session.fresh? newId s.user newHash now with
        | none =>
          rw [hfresh] at h
          simp [h.1]
        | some next =>
          rw [hfresh] at h
          dsimp only at h
          rw [upsert, Step.bind_assoc] at h
          rcases takes_goingOn_send h with ⟨e, hrest⟩ | ⟨f, e, rest, rfl, hrest⟩ |
            ⟨o, rest, -, rfl, hrest⟩
          · exact hsettle hrest
          · simpa using hsettle hrest
          · change Takes (settle (.ok (some s), _)) rest r at hrest
            simpa using hsettle hrest

end

end Sessions

/-! ## What is left of the table -/

namespace Tokens

/-- The table after some statements. -/
def replay (d : Tokens) (statements : List Statement) : Tokens :=
  statements.foldl (fun d s => (d.execute s).2) d

/-- The statement takes rows out and puts none in. -/
def TakesOut (s : Statement) : Prop := ∀ d : Tokens, (d.execute s).2.rows ⊆ d.rows

theorem takesOut_sweep (now : Instant) : TakesOut (.sweep now) :=
  fun _ => List.filter_sublist.subset

theorem takesOut_consume (hash : String) : TakesOut (.consumeSession hash) :=
  fun _ => List.filter_sublist.subset

theorem replay_subset {statements : List Statement} (h : ∀ s ∈ statements, TakesOut s)
    (d : Tokens) : (d.replay statements).rows ⊆ d.rows := by
  induction statements generalizing d with
  | nil => exact List.Subset.refl _
  | cons s statements ih =>
    have hrest := ih (fun s' hs' => h s' (List.mem_cons_of_mem _ hs')) (d.execute s).2
    exact List.Subset.trans hrest (h s List.mem_cons_self d)

/-- After a deletion its hash finds nothing. -/
theorem find?_replay_consume (d : Tokens) (statements : List Statement) (hash : String) :
    (d.replay (statements ++ [.consumeSession hash])).find? hash = none := by
  rw [replay, List.foldl_append]
  refine List.find?_eq_none.mpr fun s hs => ?_
  simpa using (List.mem_filter.mp hs).2

end Tokens

/-! ## The rotation -/

/-- What was said in a rotation that was handed back a session that is over, and the answer. -/
structure LateRotation [TransactionManager] (hash newHash : String) (now : Instant)
    (consumed : Session) (t : List Sent) (r : Option (Except StoreError (Option Session))) : Prop where
  /-- No session is filed. -/
  unfiled : ∀ s reply, ⟨.upsertSession s, reply⟩ ∉ t
  /-- The transaction of the deletion is committed at once. If it was lost with a refused savepoint,
  the deletion stands alone. -/
  committed :
    (∃ before o o', t = before ++ [⟨.consumeSession hash, .ok o⟩, ⟨.commit, .ok o'⟩] ∧
      r = some (.ok (some consumed))) ∨
    (∃ before o f reply,
      t = before ++ [⟨.consumeSession hash, .ok o⟩, ⟨.commit, .error f⟩, ⟨.rollback, reply⟩] ∧
      r = some (.error (f.toStoreError "commit_transaction"))) ∨
    (¬ OuterStays t ∧ ∃ before o, t = before ++ [⟨.consumeSession hash, .ok o⟩] ∧
      r = some (.ok (some consumed)))
  /-- So it lasts, unless the answer is an error, and the hash finds nothing. -/
  lasting : ∀ a, r = some (.ok a) → .consumeSession hash ∈ (Ledger.after t).lasting ∧
    ∀ d : Tokens, (d.replay (Ledger.after t).lasting).find? hash = none
  /-- However it ends, neither hash finds a session that is not over. -/
  unusable : ∀ d : Tokens, d.find? hash = some consumed →
    (∀ s ∈ (d.replay (Ledger.after t).lasting).rows, s.tokenHash = hash →
      ∀ later, now ≤ later → s.isExpiredAt later = true) ∧
    (d.find? newHash = none → (d.replay (Ledger.after t).lasting).find? newHash = none)

/-- What lasts takes rows out only, so the rows were there before. -/
theorem unusable_of_takesOut {hash newHash : String} {now : Instant} {consumed : Session}
    {statements : List Statement} (hover : consumed.expiresAt ≤ now)
    (h : ∀ s ∈ statements, Tokens.TakesOut s) (d : Tokens) (hfind : d.find? hash = some consumed) :
    (∀ s ∈ (d.replay statements).rows, s.tokenHash = hash →
      ∀ later, now ≤ later → s.isExpiredAt later = true) ∧
    (d.find? newHash = none → (d.replay statements).find? newHash = none) := by
  have hsubset := Tokens.replay_subset h d
  constructor
  · intro s hs hhash later hlater
    have hsame : d.find? hash = some s := Tokens.find?_eq_some_iff.mpr ⟨hsubset hs, hhash⟩
    rw [hfind] at hsame
    cases hsame
    exact Session.isExpiredAt_mono hlater (by simpa [Session.isExpiredAt] using hover)
  · intro hnone
    refine List.find?_eq_none.mpr fun s hs => ?_
    exact List.find?_eq_none.mp hnone s (hsubset hs)

/-- A sweep that leaves a transaction open in which rows were taken out only. -/
structure Cleared (begun : List Sent) : Prop where
  unfiled : ∀ s reply, ⟨.upsertSession s, reply⟩ ∉ begun
  pending : ∃ level outer, Ledger.after begun = ⟨[], level :: outer⟩ ∧
    ∀ s ∈ (level :: outer).flatten, Tokens.TakesOut s

section

variable {m : TransactionManager} {hash newHash : String} {newId : SessionId} {now : Instant}
  {consumed : Session} {o : Outcome} {begun ending t : List Sent} {r : Option (Except StoreError (Option Session))}

theorem lateRotation_inside (hover : consumed.expiresAt ≤ now) (hcleared : Cleared begun)
    (hending : Closes (some (.ok (some consumed))) ending r) :
    LateRotation hash newHash now consumed
      (begun ++ ⟨.consumeSession hash, .ok o⟩ :: ending) r := by
  obtain ⟨level, outer, hledger, htakesOut⟩ := hcleared.pending
  have hconsumed : Ledger.after (begun ++ [⟨.consumeSession hash, .ok o⟩]) =
      ⟨[], (level ++ [.consumeSession hash]) :: outer⟩ := by
    rw [Ledger.after_snoc, hledger]
    rfl
  have hunfiled : ∀ s reply, (∀ e ∈ ending, e.statement.bounds = true) →
      ⟨.upsertSession s, reply⟩ ∉ begun ++ ⟨.consumeSession hash, .ok o⟩ :: ending := by
    intro s reply hbounds hmem
    rcases List.mem_append.mp hmem with hmem | hmem
    · exact hcleared.unfiled s reply hmem
    rcases List.mem_cons.mp hmem with hmem | hmem
    · cases hmem
    · cases hbounds _ hmem
  cases hending with
  | committed _ o' =>
    have hlasting :
        (Ledger.after (begun ++ [⟨.consumeSession hash, .ok o⟩, ⟨.commit, .ok o'⟩])).lasting =
          outer.reverse.flatten ++ (level ++ [.consumeSession hash]) := by
      rw [List.append_cons, Ledger.after_snoc, hconsumed]
      simp [Ledger.hear, Ledger.take]
    refine ⟨fun s reply => hunfiled s reply (by simp [Statement.bounds]),
      Or.inl ⟨begun, o, o', rfl, rfl⟩, fun _ _ => ?_, ?_⟩
    · rw [hlasting, ← List.append_assoc]
      exact ⟨by simp, fun d => Tokens.find?_replay_consume d _ hash⟩
    rw [hlasting]
    refine unusable_of_takesOut hover fun s hs => ?_
    rcases List.mem_append.mp hs with hs | hs
    · exact htakesOut s (by simpa using Or.inr hs)
    rcases List.mem_append.mp hs with hs | hs
    · exact htakesOut s (List.mem_append_left _ hs)
    · rw [List.mem_singleton.mp hs]
      exact Tokens.takesOut_consume hash
  | uncommitted _ f reply =>
    have hlasting : (Ledger.after (begun ++ [⟨.consumeSession hash, .ok o⟩, ⟨.commit, .error f⟩,
        ⟨.rollback, reply⟩])).lasting = [] := by
      rw [List.append_cons, List.append_cons, Ledger.after_snoc, Ledger.lasting_hear_rollback,
        Ledger.after_snoc, hconsumed]
      rfl
    refine ⟨fun s reply => hunfiled s reply (by simp [Statement.bounds]),
      Or.inr (Or.inl ⟨begun, o, f, reply, rfl, rfl⟩), fun _ h => (by cases h), ?_⟩
    rw [hlasting]
    exact unusable_of_takesOut hover fun s hs => by cases hs

theorem not_consumed_of_sweep (hash : String) {swept : List Sent} {l : Link}
    (h : Takes (Sessions.sweepInside now ⟨1, none⟩) swept (some (.ok (), l))) :
    l.depth ≤ 1 ∧ ∀ e ∈ swept, e.statement ≠ .consumeSession hash := by
  constructor
  · obtain ⟨l', heq, hcases⟩ := Sessions.sweep_cases h
    cases heq
    rcases hcases with ⟨f, posted, -, -, rfl⟩ | ⟨o₁, o₂, o₃, -, rfl⟩ | ⟨o₁, f, reply, -, rfl⟩ |
      ⟨o₁, o₂, f, reply, -, rfl⟩
    · exact m.left_le 1
    all_goals exact Nat.le_refl 1
  · intro e he heq
    have hprimary := isPrimary_of_swept h e he
    rw [heq] at hprimary
    cases hprimary

/-- A refused savepoint that is the only one lost leaves the transaction as it was. -/
theorem cleared_of_refused (hleaves : m.LeavesOuter) {o₀ : Outcome} {f : Failure}
    {posted : List Sent} (hposted : posted.map Sent.statement = m.posted 1) :
    Cleared (⟨.begin, .ok o₀⟩ :: ⟨.savepoint, .error f⟩ :: posted) := by
  have hback : ∀ e ∈ posted, e.statement = .rollbackToSavepoint := by
    intro e he
    rcases Statement.givesUp_iff.mp (givesUp_of_posted hposted e he) with hrollback | hback
    · have haside := isAside_of_posted hleaves hposted e he
      rw [hrollback] at haside
      cases haside
    · exact hback
  have hledger : posted.foldl Ledger.hear ⟨[], [[]]⟩ = ⟨[], [[]]⟩ := by
    clear hposted
    induction posted with
    | nil => rfl
    | cons e posted ih =>
      obtain ⟨s, reply⟩ := e
      cases hback _ List.mem_cons_self
      rw [List.foldl_cons, show Ledger.hear ⟨[], [[]]⟩ ⟨.rollbackToSavepoint, reply⟩ = ⟨[], [[]]⟩ by
        cases reply <;> rfl]
      exact ih fun e he => hback e (List.mem_cons_of_mem _ he)
  refine ⟨fun s reply hmem => ?_, [], [], hledger, by simp⟩
  simp only [List.mem_cons, Sent.mk.injEq, reduceCtorEq, false_and, false_or] at hmem
  cases hback _ hmem

/-- Where the sweep leaves nothing owing it leaves a transaction open, or it has lost it. -/
theorem cleared_of_sweep {o₀ : Outcome} {swept : List Sent} {l : Link}
    (h : Takes (Sessions.sweepInside now ⟨1, none⟩) swept (some (.ok (), l)))
    (howed : l.owed = none) :
    (l = ⟨1, none⟩ ∧ Cleared (⟨.begin, .ok o₀⟩ :: swept)) ∨
    (l = ⟨0, none⟩ ∧ ¬ OuterStays swept ∧ (∀ s reply, ⟨.upsertSession s, reply⟩ ∉ swept) ∧
      Ledger.after (⟨.begin, .ok o₀⟩ :: swept) = .empty) := by
  obtain ⟨l', heq, hcases⟩ := Sessions.sweep_cases h
  cases heq
  rcases hcases with ⟨f, posted, rfl, hposted, rfl⟩ | ⟨o₁, o₂, o₃, rfl, rfl⟩ |
    ⟨o₁, f, reply, rfl, rfl⟩ | ⟨o₁, o₂, f, reply, rfl, rfl⟩
  · rw [show owedBy posted = none from howed]
    have hgivesUp := givesUp_of_posted hposted
    have hreplies := owedBy_eq_none_iff.mp howed
    rcases Nat.le_one_iff_eq_zero_or_eq_one.mp (m.left_le 1) with hlost | hleaves
    · refine Or.inr ⟨by rw [hlost], ?_, ?_, ?_⟩
      · rintro (hleaves | hheld)
        · cases hlost.symm.trans hleaves
        · obtain ⟨o, heq⟩ := hheld _ List.mem_cons_self rfl
          cases heq
      · intro s reply hmem
        rcases List.mem_cons.mp hmem with heq | hmem
        · cases heq
        · cases hgivesUp _ hmem
      · -- the transaction was rolled back, and the server took that
        have hmem : .rollback ∈ m.posted 1 := (m.rollback_mem_iff 1 Nat.one_ne_zero).mpr hlost
        rw [← hposted] at hmem
        obtain ⟨⟨s, reply⟩, he, rfl⟩ := List.mem_map.mp hmem
        obtain ⟨o, rfl⟩ := hreplies _ he
        have hlevels := Ledger.levels_hears_of_rolledBack (g := ⟨[], [[]]⟩) hgivesUp (Or.inr ⟨o, he⟩)
        have hlasting := Ledger.lasting_hears_of_givesUp hgivesUp ⟨[], [[]]⟩
        exact congrArg₂ Ledger.mk hlasting hlevels
    · exact Or.inl ⟨by rw [hleaves], cleared_of_refused hleaves hposted⟩
  · refine Or.inl ⟨rfl, by simp, [.sweep now], [], rfl, fun s hs => ?_⟩
    rw [List.mem_singleton.mp hs]
    exact Tokens.takesOut_sweep now
  · cases reply with
    | error f' => cases howed
    | ok o => exact Or.inl ⟨rfl, by simp, [], [[]], rfl, by simp⟩
  · cases reply with
    | error f' => cases howed
    | ok o => exact Or.inl ⟨rfl, by simp, [], [[]], rfl, by simp⟩

theorem lateRotation_outside (hover : consumed.expiresAt ≤ now) (hlost : ¬ OuterStays begun)
    (hunfiled : ∀ s reply, ⟨.upsertSession s, reply⟩ ∉ begun)
    (hledger : Ledger.after begun = .empty) :
    LateRotation hash newHash now consumed (begun ++ [⟨.consumeSession hash, .ok o⟩])
      (some (.ok (some consumed))) := by
  have hlasting : (Ledger.after (begun ++ [⟨.consumeSession hash, .ok o⟩])).lasting =
      [.consumeSession hash] := by
    rw [Ledger.after_snoc, hledger]
    rfl
  refine ⟨by simpa using hunfiled, ?_, fun _ _ => ?_, ?_⟩
  · exact Or.inr (Or.inr ⟨fun hs => hlost (outerStays_append.mp hs).1, begun, o, rfl, rfl⟩)
  · rw [hlasting]
    exact ⟨List.mem_singleton_self _, fun d => Tokens.find?_replay_consume d [] hash⟩
  · rw [hlasting]
    exact unusable_of_takesOut hover (by simpa using Tokens.takesOut_consume hash)

theorem lateRotation_of_takes {row : Row}
    (h : Takes (opening "rotate" (Sessions.sweepInside now >>= fun _ =>
      within "consume_session" (send (.consumeSession hash)) >>=
        Sessions.exchange newHash newId now)) t r)
    (hmem : ⟨.consumeSession hash, .ok o⟩ ∈ t) (hrow : o.rows.head? = some row)
    (hread : row.session = .ok consumed) (hover : consumed.expiresAt ≤ now) :
    LateRotation hash newHash now consumed t r := by
  rcases takes_opening h with ⟨f, posted, rfl, hposted, -⟩ | ⟨o₀, begun, rfl, hbegun⟩
  · rcases List.mem_cons.mp hmem with hmem | hmem
    · cases hmem
    · cases hposted _ hmem
  obtain ⟨swept, l, rest, rfl, hsweep, hrest⟩ := takes_midway_sweep hbegun
  obtain ⟨hdepth, hswept⟩ := not_consumed_of_sweep hash hsweep
  have hmem : ⟨.consumeSession hash, .ok o⟩ ∈ rest := by
    rcases List.mem_cons.mp hmem with hmem | hmem
    · cases hmem
    rcases List.mem_append.mp hmem with hmem | hmem
    · exact absurd rfl (hswept _ hmem)
    · exact hmem
  -- the session was taken out, so nothing was owing and nothing was refused
  rcases takes_goingOn_send hrest with ⟨e, hend⟩ | ⟨f, e, rest, rfl, hend⟩ |
    ⟨o', rest, howed, rfl, hend⟩
  · cases bounds_of_settle hdepth hend _ hmem
  · rcases List.mem_cons.mp hmem with hmem | hmem
    · cases hmem
    · cases bounds_of_settle hdepth hend _ hmem
  obtain ⟨depth, owed⟩ := l
  cases howed
  have hsame : o' = o := by
    rcases List.mem_cons.mp hmem with hmem | hmem
    · cases hmem
      rfl
    · exact absurd rfl (Sessions.not_consumed_of_exchange hdepth hend _ hmem)
  subst hsame
  rw [Sessions.exchange_late hrow hread hover] at hend
  change Takes (settle (.ok (some consumed), ⟨depth, none⟩)) rest r at hend
  rcases cleared_of_sweep hsweep rfl with ⟨heq, hcleared⟩ | ⟨heq, hlost, hunfiled, hledger⟩
  · cases heq
    exact lateRotation_inside hover hcleared (closes_of_settle hend)
  · cases heq
    rw [settle_outside] at hend
    obtain ⟨rfl, rfl⟩ := hend
    rw [← List.cons_append]
    refine lateRotation_outside hover (fun hs => ?_) (by simpa using hunfiled) hledger
    rw [← List.singleton_append] at hs
    exact hlost (outerStays_append.mp hs).2

end

/-- Whatever else the server replies. -/
theorem lateRotation_of_talk [TransactionManager] (server : Server) {hash newHash : String}
    {newId : SessionId} {now : Instant} {o : Outcome} {row : Row} {consumed : Session}
    (hmem : ⟨.consumeSession hash, .ok o⟩ ∈
      (server.talk (Sessions.answer (.rotate hash newHash newId now))).2)
    (hrow : o.rows.head? = some row) (hread : row.session = .ok consumed)
    (hover : consumed.expiresAt ≤ now) :
    LateRotation hash newHash now consumed
      (server.talk (Sessions.answer (.rotate hash newHash newId now))).2
      (server.talk (Sessions.answer (.rotate hash newHash newId now))).1 := by
  have heq : Sessions.answer (.rotate hash newHash newId now) =
      connected "rotate" (transaction "rotate" (Sessions.sweepInside now >>= fun _ =>
        within "consume_session" (send (.consumeSession hash)) >>=
          Sessions.exchange newHash newId now)) := rfl
  rw [heq, talk_connected] at hmem ⊢
  cases hconnection : server.acquires with
  | error f =>
    rw [hconnection] at hmem
    cases hmem
  | ok u =>
    rw [hconnection] at hmem
    exact lateRotation_of_takes (server.takes_talk _) hmem hrow hread hover

end TenantAuth.Postgres
