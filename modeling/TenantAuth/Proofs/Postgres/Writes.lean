-- The five operations that write in several statements, and what a rotation writes.

import TenantAuth.Proofs.Postgres.Atomicity

namespace TenantAuth.Postgres

open Step

/-- An operation that writes in several statements. -/
inductive Write where
  | replace (s : Session)
  | rotate (hash newHash : String) (newId : SessionId) (now : Instant)
  | insert (p : Principal)
  | createOrganization (name ownerEmail ownerName : String) (new : NewOrganization)
  | addUser (o : OrganizationId) (email name : String) (new : NewUser)

abbrev Write.Answer : Write → Type
  | .replace _ => Unit
  | .rotate .. => Option Session
  | .insert _ => Unit
  | .createOrganization .. => Organization × Principal
  | .addUser .. => Principal

def Write.program [TransactionManager] : (w : Write) → DatabaseProgram (Except StoreError w.Answer)
  | .replace s => Sessions.answer (.replace s)
  | .rotate hash newHash newId now => Sessions.answer (.rotate hash newHash newId now)
  | .insert p => Users.answerInsert p
  | .createOrganization name ownerEmail ownerName new =>
    Users.answer (.createOrganization name ownerEmail ownerName new)
  | .addUser o email name new => Users.answer (.addUser o email name new)

/-! ## Inside the transactions -/

/-- The statement neither begins nor ends a transaction, and it asks for no session and
files none. -/
def Statement.isAside : Statement → Bool
  | consumeSession _ | upsertSession _ => false
  | s => !s.bounds

theorem Statement.bounds_of_isAside {s : Statement} (h : s.isAside = true) : s.bounds = false := by
  cases s
  case begin | commit | rollback => cases h
  all_goals rfl

section

variable {m : TransactionManager}

/-- What the client posts where a savepoint is refused is an aside, if it leaves the transaction
outside open. -/
theorem isAside_of_posted (h : m.LeavesOuter) {posted : List Sent}
    (hposted : posted.map Sent.statement = m.posted 1) :
    ∀ e ∈ posted, e.statement.isAside = true := by
  intro e he
  have hmem : e.statement ∈ m.posted 1 := hposted ▸ List.mem_map_of_mem he
  rcases Statement.givesUp_iff.mp (givesUp_of_posted hposted e he) with heq | heq
  · exact absurd (heq ▸ hmem) h.rollback_not_mem
  · rw [heq]
    rfl

namespace Sessions

/-- The sweep comes to an end within the transaction, and its statements are asides. -/
theorem sweep_aside {now : Instant} {t : List Sent} {r : Option (Except StoreError Unit × Link)}
    (hs : OuterStays t) (h : Takes (sweepInside now ⟨1, none⟩) t r) :
    (∃ owed, r = some (.ok (), ⟨1, owed⟩)) ∧ ∀ e ∈ t, e.statement.isAside = true := by
  obtain ⟨l, rfl, hcases⟩ := sweep_cases h
  rcases hcases with ⟨f, posted, rfl, hposted, rfl⟩ | ⟨o₁, o₂, o₃, rfl, rfl⟩ |
    ⟨o₁, f, reply, rfl, rfl⟩ | ⟨o₁, o₂, f, reply, rfl, rfl⟩
  · rcases hs with hleaves | hheld
    · refine ⟨⟨owedBy posted, ?_⟩, fun e he => ?_⟩
      · rw [show m.left 1 = 1 from hleaves]
      · rcases List.mem_cons.mp he with rfl | he
        · rfl
        · exact isAside_of_posted hleaves hposted e he
    · obtain ⟨o, ho⟩ := hheld _ List.mem_cons_self rfl
      cases ho
  all_goals exact ⟨⟨_, rfl⟩, by simp [Statement.isAside, Statement.bounds]⟩

theorem insideFrom_sweep (now : Instant) : (sweepInside now).InsideFrom ⟨1, none⟩ := by
  intro t r h hs
  obtain ⟨⟨owed, rfl⟩, haside⟩ := sweep_aside hs h
  refine ⟨fun e he => Statement.bounds_of_isAside (haside e he), fun x l' heq => ?_⟩
  cases heq
  rfl

theorem inside_upsert (s : Session) : (upsert s).Inside :=
  inside_bind (inside_send _ rfl) fun _ => inside_pure ()

theorem inside_exchange (newHash : String) (newId : SessionId) (now : Instant)
    (consumed : Outcome) : (exchange newHash newId now consumed).Inside := by
  unfold exchange
  cases consumed.rows.head? with
  | none => exact inside_pure none
  | some row =>
    refine inside_bind (inside_lift _) fun s => ?_
    by_cases hexpired : s.isExpiredAt now
    · simp only [hexpired, if_true]
      exact inside_pure _
    · simp only [hexpired]
      cases Session.fresh? newId s.user newHash now with
      | none => exact inside_broken
      | some next => exact inside_bind (inside_upsert next) fun _ => inside_pure _

end Sessions

namespace Users

theorem inside_oneValue {α : Type} (operation : String) {s : Statement} (hs : s.bounds = false)
    (read : Cell → Option α) : (oneValue operation s read).Inside := by
  refine inside_bind (inside_send _ hs) fun o => ?_
  cases o.rows.head? with
  | none => exact inside_fail _
  | some row => exact inside_lift _

theorem inside_perform (operation : String) {s : Statement} (hs : s.bounds = false) :
    (perform operation s).Inside :=
  inside_bind (inside_send _ hs) fun _ => inside_pure ()

theorem inside_ensureEmailFree (email : String) : (ensureEmailFree email).Inside := by
  refine inside_bind (inside_oneValue _ rfl _) fun taken => ?_
  cases taken with
  | true => exact inside_fail _
  | false => exact inside_pure ()

theorem inside_lockedQuota (o : OrganizationId) : (lockedQuota o).Inside := by
  refine inside_bind (inside_send _ rfl) fun outcome => ?_
  cases outcome.rows.head? with
  | none => exact inside_fail _
  | some row => exact inside_lift _

end Users

namespace Write

open Sessions Users

/-- What happens inside the transaction of an operation. -/
def body [TransactionManager] : (w : Write) → Step StoreError w.Answer
  | .replace s => do
    sweepInside s.createdAt
    upsert s
  | .rotate hash newHash newId now => do
    sweepInside now
    let consumed ← within "consume_session" (send (.consumeSession hash))
    exchange newHash newId now consumed
  | .insert p => do
    perform "insert_organization" (.reserveOrganization p.organization)
    insertUser p
  | .createOrganization name ownerEmail ownerName new => do
    ensureEmailFree ownerEmail
    let quota ← lift (storedQuota (new.toOrganization name).maxSubAccounts)
    let createdAt ← oneValue "insert_organization"
      (.insertOrganization new.id name (new.toOrganization name).tier quota) Cell.time?
    insertUser (new.toOwner ownerEmail ownerName)
    perform "set_organization_owner" (.setOwner (new.toOwner ownerEmail ownerName).id new.id)
    pure ({ new.toOrganization name with createdAt := .ofInstant createdAt },
      new.toOwner ownerEmail ownerName)
  | .addUser o email name new => do
    ensureEmailFree email
    let limit ← lockedQuota o
    let count ← oneValue "count_sub_accounts" (.countSubAccounts o) Cell.int8?
    if limit.toInt ≤ count.toInt then fail (.fullOrganization o count.toInt)
    else do
      insertUser (new.toSubAccount o email name)
      pure (new.toSubAccount o email name)

theorem program_eq (w : Write) :
    ∃ operation operation', w.program = connected operation (transaction operation' w.body) := by
  cases w <;> exact ⟨_, _, rfl⟩

theorem insideFrom_body (w : Write) : w.body.InsideFrom ⟨1, none⟩ := by
  cases w with
  | replace s => exact insideFrom_bind (insideFrom_sweep _) fun _ => inside_upsert s
  | rotate hash newHash newId now =>
    refine insideFrom_bind (insideFrom_sweep _) fun _ => ?_
    exact inside_bind (inside_send _ rfl) (inside_exchange _ _ _)
  | insert p =>
    exact insideFrom_bind (inside_perform _ rfl _ rfl) fun _ => inside_perform _ rfl
  | createOrganization name ownerEmail ownerName new =>
    refine insideFrom_bind (inside_ensureEmailFree _ _ rfl) fun _ => ?_
    refine inside_bind (inside_lift _) fun quota => ?_
    refine inside_bind (inside_oneValue _ rfl _) fun createdAt => ?_
    refine inside_bind (inside_perform _ rfl) fun _ => ?_
    exact inside_bind (inside_perform _ rfl) fun _ => inside_pure _
  | addUser o email name new =>
    refine insideFrom_bind (inside_ensureEmailFree _ _ rfl) fun _ => ?_
    refine inside_bind (inside_lockedQuota o) fun limit => ?_
    refine inside_bind (inside_oneValue _ rfl _) fun count => ?_
    by_cases hfull : limit.toInt ≤ count.toInt
    · simp only [hfull, if_true]
      exact inside_fail _
    · simp only [hfull, if_false]
      exact inside_bind (inside_perform _ rfl) fun _ => inside_pure _

theorem course {w : Write} {t : List Sent} {r : Option (Except StoreError w.Answer)}
    (hs : OuterStays t) (h : Takes w.program t r) : Course w.body t r := by
  obtain ⟨operation, operation', heq⟩ := w.program_eq
  rw [heq] at h
  exact course_of_takes w.insideFrom_body hs h

end Write

/-! ## What a rotation writes -/

/-- How a rotation may go on after the sweep, and what it ends with. -/
inductive Exchange (hash newHash : String) (newId : SessionId) (now : Instant) :
    List Sent → Option (Except StoreError (Option Session) × Link) → Prop
  | unasked (e : StoreError) (l : Link) :
      Exchange hash newHash newId now [] (some (.error e, l))
  | refused (f : Failure) (e : StoreError) (l : Link) :
      Exchange hash newHash newId now [⟨.consumeSession hash, .error f⟩] (some (.error e, l))
  | absent {o : Outcome} (h : o.rows.head? = none) :
      Exchange hash newHash newId now [⟨.consumeSession hash, .ok o⟩] (some (.ok none, ⟨1, none⟩))
  | unfiled {o : Outcome} {row : Row} (h : o.rows.head? = some row)
      (r : Option (Except StoreError (Option Session) × Link)) :
      Exchange hash newHash newId now [⟨.consumeSession hash, .ok o⟩] r
  | filed {o : Outcome} {row : Row} {consumed : Session} {expiry : Instant}
      (hrow : o.rows.head? = some row) (hread : row.session = .ok consumed)
      (hlive : now < consumed.expiresAt) (hexpiry : now.add? Session.lifetime = some expiry)
      (reply : Except Failure Outcome)
      (r : Option (Except StoreError (Option Session) × Link)) :
      Exchange hash newHash newId now
        [⟨.consumeSession hash, .ok o⟩,
          ⟨.upsertSession ⟨newId, consumed.user, newHash, expiry, now⟩, reply⟩] r

theorem takes_exchange {hash newHash : String} {newId : SessionId} {now : Instant} {o : Outcome}
    {t : List Sent} {r : Option (Except StoreError (Option Session) × Link)}
    (h : Takes (Sessions.exchange newHash newId now o ⟨1, none⟩) t r) :
    Exchange hash newHash newId now (⟨.consumeSession hash, .ok o⟩ :: t) r := by
  unfold Sessions.exchange at h
  cases hrow : o.rows.head? with
  | none =>
    rw [hrow] at h
    obtain ⟨rfl, rfl⟩ := h
    exact .absent hrow
  | some row =>
    rw [hrow] at h
    change Takes ((lift (row.session.mapError (Failure.toStoreError "decode_session")) >>= _) _) t r
      at h
    cases hread : row.session with
    | error f =>
      rw [hread] at h
      obtain ⟨rfl, rfl⟩ := h
      exact .unfiled hrow _
    | ok consumed =>
      rw [hread] at h
      change Takes ((if consumed.isExpiredAt now then _ else _ : Step StoreError (Option Session))
        ⟨1, none⟩) t r at h
      by_cases hexpired : consumed.isExpiredAt now
      · rw [if_pos hexpired] at h
        obtain ⟨rfl, rfl⟩ := h
        exact .unfiled hrow _
      rw [if_neg hexpired] at h
      have hlive : now < consumed.expiresAt := by
        simpa [Session.isExpiredAt, Instant.le_def, Instant.lt_def] using hexpired
      unfold Session.fresh? at h
      cases hexpiry : now.add? Session.lifetime with
      | none =>
        rw [hexpiry] at h
        obtain ⟨rfl, rfl⟩ := h
        exact .unfiled hrow _
      | some expiry =>
        rw [hexpiry] at h
        obtain ⟨reply, rest, rfl, h⟩ := h
        have hrest : rest = [] := by
          cases reply <;> exact h.1
        rw [hrest]
        exact .filed hrow hread hlive hexpiry reply r

theorem rotate_cases {hash newHash : String} {newId : SessionId} {now : Instant} {t : List Sent}
    {r : Option (Except StoreError (Option Session) × Link)} (hs : OuterStays t)
    (h : Takes ((Write.rotate hash newHash newId now).body ⟨1, none⟩) t r) :
    ∃ swept rest, t = swept ++ rest ∧ (∀ e ∈ swept, e.statement.isAside = true) ∧
      Exchange hash newHash newId now rest r := by
  rcases takes_bind.mp h with ⟨swept, _, l, rest, rfl, h₁, h₂⟩ | ⟨e, l, h₁, -⟩ | ⟨h₁, -⟩
  · obtain ⟨⟨owed, heq⟩, hswept⟩ := Sessions.sweep_aside (outerStays_append.mp hs).1 h₁
    cases heq
    refine ⟨swept, rest, rfl, hswept, ?_⟩
    rcases takes_bind.mp h₂ with ⟨t₁, o, l₁, t₂, rfl, h₃, h₄⟩ | ⟨e, l₁, h₃, rfl⟩ | ⟨h₃, rfl⟩
    all_goals rcases takes_send h₃ with ⟨f, rfl, rfl, heq⟩ | ⟨f, rfl, rfl, heq⟩ |
      ⟨o', rfl, rfl, heq⟩ <;> cases heq
    · exact takes_exchange h₄
    · exact .unasked _ _
    · exact .refused f _ _
  · obtain ⟨⟨_, heq⟩, -⟩ := Sessions.sweep_aside hs h₁
    cases heq
  · obtain ⟨⟨_, heq⟩, -⟩ := Sessions.sweep_aside hs h₁
    cases heq

/-- What a rotation deletes and files, seen in all that was said. -/
structure Rotation (hash newHash : String) (newId : SessionId) (now : Instant) (t : List Sent)
    (r : Option (Except StoreError (Option Session))) : Prop where
  /-- A session is filed only after one was deleted in the same transaction. -/
  filed : ∀ s reply, ⟨.upsertSession s, reply⟩ ∈ t →
    ∃ o swept o' row consumed expiry ending,
      t = ⟨.begin, .ok o⟩ :: (swept ++ ⟨.consumeSession hash, .ok o'⟩ ::
        ⟨.upsertSession s, reply⟩ :: ending) ∧
      (∀ e ∈ swept, e.statement.isAside = true) ∧
      (∀ e ∈ ending, e.statement = .commit ∨ e.statement = .rollback) ∧
      o'.rows.head? = some row ∧ row.session = .ok consumed ∧ now < consumed.expiresAt ∧
      now.add? Session.lifetime = some expiry ∧
      s = ⟨newId, consumed.user, newHash, expiry, now⟩ ∧
      (Statement.upsertSession s).params? =
        some [.uuid newId.uuid, .uuid consumed.user.uuid, .text newHash, .ofInstant expiry,
          .ofInstant now]
  absent : ∀ o, ⟨.consumeSession hash, .ok o⟩ ∈ t → o.rows.head? = none →
    (∀ s reply, ⟨.upsertSession s, reply⟩ ∉ t) ∧
    ((∃ before o', t = before ++ [⟨.commit, .ok o'⟩] ∧ r = some (.ok none)) ∨
      ∃ before f reply e, t = before ++ [⟨.commit, .error f⟩, ⟨.rollback, reply⟩] ∧
        r = some (.error e))

/-- The words between which the transaction of an operation stands. -/
theorem Course.frame {α : Type} {p : Step StoreError α} {t : List Sent}
    {r : Option (Except StoreError α)} (h : Course p t r) :
    (∀ e ∈ t, e.statement = .begin ∨ e.statement.givesUp = true) ∨
    ∃ o b r' ending, t = ⟨.begin, .ok o⟩ :: (b ++ ending) ∧ Takes (p ⟨1, none⟩) b r' ∧
      (∀ e ∈ ending, e.statement = .commit ∨ e.statement = .rollback) ∧
      ∀ a, r' = some (.ok a, ⟨1, none⟩) →
        (∃ o', ending = [⟨.commit, .ok o'⟩] ∧ r = some (.ok a)) ∨
        ∃ f reply e, ending = [⟨.commit, .error f⟩, ⟨.rollback, reply⟩] ∧ r = some (.error e) := by
  cases h with
  | unconnected e => exact Or.inl (by simp)
  | unopened f e hposted =>
    exact Or.inl fun e' he => (List.mem_cons.mp he).imp (congrArg Sent.statement) (hposted e')
  | failed o reply body => exact Or.inr ⟨o, _, _, _, rfl, body, by simp, fun a h => by cases h⟩
  | owing o reply e body => exact Or.inr ⟨o, _, _, _, rfl, body, by simp, fun a h => by cases h⟩
  | uncommitted o f reply e body =>
    exact Or.inr ⟨o, _, _, _, rfl, body, by simp, fun a h => Or.inr ⟨f, reply, e, rfl, rfl⟩⟩
  | committed o o' body =>
    refine Or.inr ⟨o, _, _, _, rfl, body, by simp, fun a h => Or.inl ⟨o', rfl, ?_⟩⟩
    cases h
    rfl
  | broken o body => exact Or.inr ⟨o, _, _, [], by simp, body, by simp, fun a h => by cases h⟩

theorem rotation_of_course {hash newHash : String} {newId : SessionId} {now : Instant}
    {t : List Sent} {r : Option (Except StoreError (Option Session))} (hs : OuterStays t)
    (h : Course (Write.rotate hash newHash newId now).body t r) :
    Rotation hash newHash newId now t r := by
  rcases h.frame with hbegin | ⟨o, b, r', ending, rfl, hbody, hending, hend⟩
  · constructor
    · intro s reply hmem
      rcases hbegin _ hmem with h | h <;> cases h
    · intro o hmem
      rcases hbegin _ hmem with h | h <;> cases h
  obtain ⟨swept, rest, rfl, hswept, hrest⟩ := rotate_cases hs.body hbody
  -- neither the bounds of the transaction nor the sweep ask for a session or file one
  have hmem_rest : ∀ e ∈ (⟨.begin, .ok o⟩ :: (swept ++ rest ++ ending) : List Sent),
      e.statement.isAside = false → e.statement.bounds = false → e ∈ rest := by
    intro e he haside hbounds
    simp only [List.mem_cons, List.mem_append] at he
    rcases he with rfl | (he | he) | he
    · cases hbounds
    · rw [hswept e he] at haside
      cases haside
    · exact he
    · rcases hending e he with h | h <;> rw [h] at hbounds <;> cases hbounds
  constructor
  · intro s reply hmem
    have hmem := hmem_rest _ hmem rfl rfl
    cases hrest with
    | unasked => simp at hmem
    | refused => simp at hmem
    | absent => simp at hmem
    | unfiled => simp at hmem
    | filed hrow hread hlive hexpiry reply' r =>
      simp only [List.mem_cons, Sent.mk.injEq, reduceCtorEq, false_and, Statement.upsertSession.injEq,
        List.not_mem_nil, or_false, false_or] at hmem
      obtain ⟨rfl, rfl⟩ := hmem
      exact ⟨o, swept, _, _, _, _, ending, by simp, hswept, hending, hrow, hread, hlive, hexpiry,
        rfl, rfl⟩
  · intro o' hmem hnone
    have hmem := hmem_rest _ hmem rfl rfl
    cases hrest with
    | unasked => simp at hmem
    | refused => simp at hmem
    | absent h =>
      constructor
      · intro s reply hmem
        simpa using hmem_rest _ hmem rfl rfl
      · rcases hend none rfl with ⟨o'', rfl, rfl⟩ | ⟨f, reply, e, rfl, rfl⟩
        · exact Or.inl ⟨_, o'', by rw [← List.cons_append], rfl⟩
        · exact Or.inr ⟨_, f, reply, e, by rw [← List.cons_append], rfl⟩
    | unfiled hrow =>
      simp only [List.mem_singleton, Sent.mk.injEq, true_and, Except.ok.injEq] at hmem
      rw [hmem, hrow] at hnone
      cases hnone
    | filed hrow =>
      simp only [List.mem_cons, Sent.mk.injEq, true_and, Except.ok.injEq, reduceCtorEq, false_and,
        List.not_mem_nil, or_false] at hmem
      rw [hmem, hrow] at hnone
      cases hnone

/-! ## All or nothing -/

/-- Whatever a server replies, an operation writes all or nothing, and a rotation files a session
only in place of one that was not over: with a client that leaves the transaction outside open
where a savepoint is refused, and with any client where none is refused. -/
theorem writes_are_atomic (m : TransactionManager) (server : Server) (w : Write)
    (hs : m.LeavesOuter ∨ SavepointsHold (server.talk w.program).2) :
    Atomic (server.talk w.program).2 (server.talk w.program).1 ∧
    ∀ hash newHash newId now, w = .rotate hash newHash newId now →
      Rotation hash newHash newId now (server.talk (Sessions.answer (.rotate hash newHash newId now))).2
        (server.talk (Sessions.answer (.rotate hash newHash newId now))).1 := by
  have hcourse := Write.course hs (server.takes_talk w.program)
  refine ⟨hcourse.atomic w.insideFrom_body hs, ?_⟩
  rintro hash newHash newId now rfl
  exact rotation_of_course hs hcourse

end

section

open TransactionManager.CountingFirst

/-- A server that has one session and refuses to file another one. -/
def fullServer : Server where
  connects := .ok ()
  acquires := .ok ()
  replies _ s :=
    match s with
    | .consumeSession hash =>
      .ok ⟨[⟨[("id", .uuid (.ofNat 1)), ("user_id", .uuid (.ofNat 2)), ("token_hash", .text hash),
        ("expires_at", .time ⟨2000, by decide, by decide⟩),
        ("created_at", .time .epoch)]⟩], 1⟩
    | .upsertSession _ => .error (.server "53100" "disk full")
    | _ => .ok ⟨[], 0⟩

/-- A rotation at a full server. -/
def fullRotation : Write := .rotate "h" "k" ⟨.ofNat 3⟩ (Instant.epoch.addCapped 1000)

theorem a_refused_session_is_rolled_back :
    manager.LeavesOuter ∧
    (fullServer.talk fullRotation.program).2.getLast? = some ⟨.rollback, .ok ⟨[], 0⟩⟩ ∧
    Atomic (fullServer.talk fullRotation.program).2 (fullServer.talk fullRotation.program).1 ∧
    ∀ hash newHash newId now, fullRotation = .rotate hash newHash newId now →
      Rotation hash newHash newId now
        (fullServer.talk (Sessions.answer (.rotate hash newHash newId now))).2
        (fullServer.talk (Sessions.answer (.rotate hash newHash newId now))).1 :=
  ⟨rfl, rfl, writes_are_atomic manager fullServer fullRotation (Or.inl rfl)⟩

end

end TenantAuth.Postgres
