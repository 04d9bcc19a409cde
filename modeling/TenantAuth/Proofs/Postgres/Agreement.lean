-- The store of sessions in a database and the one in memory say the same, call after
-- call, and hold the same sessions.

import TenantAuth.Proofs.Postgres.Serving

namespace TenantAuth.Postgres

/-- A session of whose id only so much is seen. -/
structure Seen (ν : Type) where
  id : ν
  user : UserId
  tokenHash : String
  expiresAt : Instant
  createdAt : Instant
  deriving DecidableEq

variable {ν : Type}

def seen (name : SessionId → ν) (s : Session) : Seen ν :=
  ⟨name s.id, s.user, s.tokenHash, s.expiresAt, s.createdAt⟩

/-! ## Like tables -/

/-- A table in memory and one in the database hold the same sessions. -/
structure Alike (name : SessionId → ν) (t : SessionTable) (d : Tokens) : Prop where
  keyed : ∀ e ∈ t.entries, e.1 = e.2.tokenHash
  same : (t.values.map (seen name)).Perm (d.rows.map (seen name))

section

variable {name : SessionId → ν} {t : SessionTable} {d : Tokens}

theorem find?_iff (h : Alike name t d) {hash : String} {s : Session} :
    t.find? hash = some s ↔ s ∈ t.values ∧ s.tokenHash = hash :=
  Keyed.find?_eq_some_iff_of_keyed h.keyed

theorem alike_keep (h : Alike name t d) {p : String → Session → Bool} {p' : Session → Bool}
    (q : Seen ν → Bool) (hp : ∀ e ∈ t.entries, p e.1 e.2 = q (seen name e.2))
    (hp' : ∀ r, p' r = q (seen name r)) : Alike name (t.keep p) (d.keep p') where
  keyed e he := h.keyed e (Keyed.mem_entries_keep.mp he).1
  same := by
    have hmemory : (t.keep p).values.map (seen name) = (t.values.map (seen name)).filter q := by
      change ((t.entries.filter fun e => p e.1 e.2).map (·.2)).map (seen name) =
        ((t.entries.map (·.2)).map (seen name)).filter q
      rw [List.map_map, List.map_map, List.filter_map, List.filter_congr hp]
      rfl
    have hdatabase : (d.keep p').rows.map (seen name) = (d.rows.map (seen name)).filter q := by
      change (d.rows.filter p').map (seen name) = (d.rows.map (seen name)).filter q
      rw [List.filter_map, List.filter_congr fun r _ => hp' r]
      rfl
    rw [hmemory, hdatabase]
    exact h.same.filter q

theorem alike_live (h : Alike name t d) (now : Instant) : Alike name (t.live now) (d.live now) :=
  alike_keep h (fun s => !decide (s.expiresAt ≤ now)) (fun _ _ => rfl) fun _ => rfl

theorem alike_withoutUser (h : Alike name t d) (u : UserId) :
    Alike name (t.withoutUser u) (d.keep fun r => r.user ≠ u) :=
  alike_keep h (fun s => s.user ≠ u) (fun _ _ => rfl) fun _ => rfl

theorem alike_erase (h : Alike name t d) (hash : String) :
    Alike name (t.erase hash) (d.keep fun r => r.tokenHash ≠ hash) := by
  apply alike_keep h fun s => s.tokenHash ≠ hash
  · intro e he
    rw [h.keyed e he]
    rfl
  · exact fun _ => rfl

/-- Both look-ups find the same session. -/
theorem find?_of_alike (h : Alike name t d) (hash : String) :
    (t.find? hash).map (seen name) = (d.find? hash).map (seen name) := by
  have hmemory : ∀ x, x ∈ (t.find? hash).map (seen name) ↔
      x ∈ t.values.map (seen name) ∧ x.tokenHash = hash := by
    intro x
    simp only [Option.mem_def, Option.map_eq_some_iff, find?_iff h, List.mem_map]
    constructor
    · rintro ⟨s, ⟨hs, hhash⟩, rfl⟩
      exact ⟨⟨s, hs, rfl⟩, hhash⟩
    · rintro ⟨⟨s, hs, rfl⟩, hhash⟩
      exact ⟨s, ⟨hs, hhash⟩, rfl⟩
  have hdatabase : ∀ x, x ∈ (d.find? hash).map (seen name) ↔
      x ∈ d.rows.map (seen name) ∧ x.tokenHash = hash := by
    intro x
    simp only [Option.mem_def, Option.map_eq_some_iff, Tokens.find?_eq_some_iff, List.mem_map]
    constructor
    · rintro ⟨s, ⟨hs, hhash⟩, rfl⟩
      exact ⟨⟨s, hs, rfl⟩, hhash⟩
    · rintro ⟨⟨s, hs, rfl⟩, hhash⟩
      exact ⟨s, ⟨hs, hhash⟩, rfl⟩
  apply Option.ext
  intro x
  exact (hmemory x).trans ((and_congr_left' h.same.mem_iff).trans (hdatabase x).symm)

/-- Filing is an update or an insertion, where no other user has the hash. -/
theorem alike_file (h : Alike name t d) {s s' : Session} (hs : seen name s = seen name s')
    (hfree : ∀ r ∈ t.values, r.tokenHash = s.tokenHash → r.user = s.user) (hfits : d.Fits s') :
    Alike name (t.file s) (d.upsert s' hfits) := by
  have huser : s.user = s'.user := congrArg Seen.user hs
  have hrest : Alike name (t.withoutUser s.user) (d.keep fun r => r.user ≠ s'.user) :=
    huser ▸ alike_withoutUser h s.user
  have herase : (Keyed.erase s.tokenHash (t.withoutUser s.user)).entries =
      (t.withoutUser s.user).entries := by
    apply List.filter_eq_self.mpr
    intro e he
    obtain ⟨hmem, hother⟩ := Keyed.mem_entries_keep.mp he
    have hne : e.2.tokenHash ≠ s.tokenHash := fun hhash =>
      absurd (hfree e.2 (List.mem_map_of_mem (f := (·.2)) hmem) hhash) (by simpa using hother)
    simpa [h.keyed e hmem] using hne
  constructor
  · intro e he
    rcases Keyed.mem_entries_put.mp he with rfl | ⟨he, -⟩
    · rfl
    · exact hrest.keyed e he
  · have hvalues : (t.file s).values = s :: (t.withoutUser s.user).values := by
      unfold Keyed.values SessionTable.file Keyed.put
      rw [List.map_cons, herase]
    rw [hvalues]
    unfold Tokens.upsert
    rw [List.map_cons, List.map_cons, hs]
    exact hrest.same.cons _

end

/-! ## Calls to both stores -/

/-- A call to both stores. In a rotation each of them makes an id of its own. -/
structure Turn where
  call : SessionCall
  databaseId : SessionId

def Turn.atDatabase (t : Turn) : SessionCall :=
  match t.call with
  | .rotate hash newHash _ now => .rotate hash newHash t.databaseId now
  | c => c

structure Stores where
  memory : SessionMemory
  tokens : Tokens

namespace Stores

def empty : Stores := ⟨.empty, .empty⟩

def turn [TransactionManager] (s : Stores) (t : Turn) : Stores :=
  ⟨(s.memory.answer t.call).2, (Database.serve s.tokens t.atDatabase).2⟩

/-- Both hold the same sessions. -/
def Same (name : SessionId → ν) (s : Stores) : Prop :=
  s.memory.locked = false ∧
    (s.memory.table.values.map (seen name)).Perm (s.tokens.rows.map (seen name))

end Stores

/-- What a call is told. -/
inductive Told (ν : Type) where
  | done
  | session (s : Option (Seen ν))
  | yes (b : Bool)
  | count (n : Nat)
  deriving DecidableEq

def told (name : SessionId → ν) : (c : SessionCall) → c.Answer → Told ν
  | .replace _, _ | .ping, _ => .done
  | .findByHash .., s | .rotate .., s => .session (Option.map (seen name) s)
  | .deleteByHash _, b | .deleteForUser _, b => .yes b
  | .sweepExpired _, n => .count n

/-- The reply to a call as far as ids are seen; none where the call breaks down. -/
def tell (name : SessionId → ν) (c : SessionCall) (reply : Option c.Reply) :
    Option (Except StoreError (Told ν)) := reply.map (Except.map (told name c))

/-- The points of time that a call is made with. -/
def instants : SessionCall → List Instant
  | .replace s => [s.expiresAt, s.createdAt]
  | .findByHash _ now | .rotate _ _ _ now | .sweepExpired now => [now]
  | .deleteByHash _ | .deleteForUser _ | .ping => []

/-- The session that a call files. -/
def filed? (t : SessionTable) : SessionCall → Option Session
  | .replace s => some s
  | .rotate hash newHash newId now =>
    ((t.live now).find? hash).bind fun s => Session.fresh? newId s.user newHash now
  | _ => none

/-- A call that the database can take: times in whole microseconds, the two ids of a
rotation not told apart, and at the moment at which a session is filed no other user has
one with its hash or its id. -/
structure Admissible (name : SessionId → ν) (s : Stores) (t : Turn) : Prop where
  precise : ∀ i ∈ instants t.call, Precise i
  named : ∀ hash newHash newId now, t.call = .rotate hash newHash newId now →
    name newId = name t.databaseId
  hash : ∀ new, filed? s.memory.table t.atDatabase = some new →
    ∀ r ∈ (s.memory.table.live new.createdAt).values, r.tokenHash = new.tokenHash →
      r.user = new.user
  id : ∀ new, filed? s.memory.table t.atDatabase = some new →
    ∀ r ∈ (s.tokens.live new.createdAt).rows, r.id = new.id → r.user = new.user

section

variable {name : SessionId → ν} {t : SessionTable} {d : Tokens}

theorem size_eq (h : Alike name t d) : t.size = d.rows.length := by
  have hlength := h.same.length_eq
  rw [List.length_map, List.length_map] at hlength
  rw [← hlength]
  exact (List.length_map _).symm

/-- What is deleted is what is no longer there. -/
theorem length_filter_add (d : Tokens) (p : Session → Bool) :
    (d.rows.filter p).length + (d.keep fun r => !p r).rows.length = d.rows.length :=
  (List.length_eq_length_filter_add p).symm

theorem fits_of_hash (h : Alike name t d) {new : Session}
    (hhash : ∀ r ∈ t.values, r.tokenHash = new.tokenHash → r.user = new.user)
    (hid : ∀ r ∈ d.rows, r.id = new.id → r.user = new.user) : d.Fits new := by
  intro r hr huser
  refine ⟨fun heq => huser (hid r hr heq), fun heq => huser ?_⟩
  have hmem : seen name r ∈ t.values.map (seen name) :=
    h.same.mem_iff.mpr (List.mem_map_of_mem hr)
  obtain ⟨r', hr', hseen⟩ := List.mem_map.mp hmem
  have huser' : r'.user = r.user := congrArg Seen.user hseen
  have hhash' : r'.tokenHash = r.tokenHash := congrArg Seen.tokenHash hseen
  rw [← huser']
  exact hhash r' hr' (hhash'.trans heq)

end

/-- A rotation of a session that is not over, so late that the next session would end past
the calendar. -/
def Late (t : SessionTable) : SessionCall → Prop
  | .rotate hash _ _ now => ((t.live now).find? hash).isSome ∧ now.add? Session.lifetime = none
  | _ => False

/-- Both stores are told the same and hold the same afterwards, unless the call breaks down
in both. -/
structure Agree [TransactionManager] (name : SessionId → ν) (s : Stores) (t : Turn) : Prop where
  answered : ¬ Late s.memory.table t.call → ∃ answer,
    tell name t.call (s.memory.answer t.call).1 = some (.ok answer) ∧
    tell name t.atDatabase (Database.serve s.tokens t.atDatabase).1 = some (.ok answer) ∧
    (s.turn t).memory.locked = false ∧ Alike name (s.turn t).memory.table (s.turn t).tokens
  broken : Late s.memory.table t.call →
    (s.memory.answer t.call).1 = none ∧ (Database.serve s.tokens t.atDatabase).1 = none ∧
    (s.turn t).tokens = s.tokens

theorem agree_of [TransactionManager] {name : SessionId → ν} {table table' : SessionTable}
    {d d' : Tokens} {t : Turn} {a : t.call.Answer} {b : t.atDatabase.Answer} (hmemory : table.answer t.call = (some a, table'))
    (hdatabase : Database.serve d t.atDatabase = (some (.ok b), d'))
    (htold : told name t.call a = told name t.atDatabase b) (h : Alike name table' d')
    (hlate : ¬ Late table t.call) : Agree name ⟨⟨table, false⟩, d⟩ t where
  answered _ := by
    unfold Stores.turn
    rw [SessionMemory.answer_of_table hmemory, hdatabase]
    exact ⟨told name t.call a, rfl, congrArg (fun x => some (Except.ok x)) htold.symm, rfl, h⟩
  broken h := absurd h hlate

section

variable [TransactionManager] {name : SessionId → ν} {table : SessionTable} {d : Tokens}
  {databaseId : SessionId}

theorem agree_replace (h : Alike name table d) {new : Session}
    (ht : Admissible name ⟨⟨table, false⟩, d⟩ ⟨.replace new, databaseId⟩) :
    Agree name ⟨⟨table, false⟩, d⟩ ⟨.replace new, databaseId⟩ := by
  have hlive := alike_live h new.createdAt
  have hfits := fits_of_hash hlive (ht.hash new rfl) (ht.id new rfl)
  have hserve := Database.serve_replace (ht.precise _ (by simp [instants]))
    (ht.precise _ (by simp [instants])) hfits
  exact agree_of (t := ⟨.replace new, databaseId⟩) rfl hserve rfl
    (alike_file hlive rfl (ht.hash new rfl) hfits) id

theorem agree_findByHash (h : Alike name table d) {hash : String} {now : Instant}
    (ht : Admissible name ⟨⟨table, false⟩, d⟩ ⟨.findByHash hash now, databaseId⟩) :
    Agree name ⟨⟨table, false⟩, d⟩ ⟨.findByHash hash now, databaseId⟩ := by
  have hlive := alike_live h now
  have hserve := Database.serve_findByHash (ht.precise now (List.mem_singleton_self now)) hash d
  apply agree_of (t := ⟨.findByHash hash now, databaseId⟩) rfl hserve _ hlive id
  exact congrArg Told.session (find?_of_alike hlive hash)

/-! ## Rotations -/

section

variable {hash newHash : String} {newId : SessionId} {now : Instant}

theorem agree_rotate_absent (h : Alike name table d) (hprecise : Precise now)
    (hs : (table.live now).find? hash = none) :
    Agree name ⟨⟨table, false⟩, d⟩ ⟨.rotate hash newHash newId now, databaseId⟩ := by
  have hlive := alike_live h now
  have hs' : (d.live now).find? hash = none := by
    have hfound := find?_of_alike hlive hash
    rw [hs] at hfound
    exact Option.map_eq_none_iff.mp hfound.symm
  have hmemory : table.answer (.rotate hash newHash newId now) = (some none, table.live now) := by
    simp only [SessionTable.answer, hs]
  apply agree_of (t := ⟨.rotate hash newHash newId now, databaseId⟩) hmemory
    (Database.serve_rotate_absent hprecise hs') rfl hlive
  rintro ⟨hsome, -⟩
  rw [hs] at hsome
  cases hsome

/-- The store in memory has taken the old session out, and the database has it back. -/
theorem agree_rotate_late (hprecise : Precise now) {s s' : Session}
    (hs : (table.live now).find? hash = some s) (hs' : (d.live now).find? hash = some s')
    (hlate : now.add? Session.lifetime = none) :
    Agree name ⟨⟨table, false⟩, d⟩ ⟨.rotate hash newHash newId now, databaseId⟩ := by
  have hexpired := SessionTable.not_expired_of_find?_live hs
  have hnext : ∀ id u, Session.fresh? id u newHash now = none := by
    intro id u
    rw [Session.fresh?, hlate]
    rfl
  have hmemory : SessionMemory.answer (.rotate hash newHash newId now) ⟨table, false⟩ =
      (none, ⟨SessionTable.withoutUser ((table.live now).erase hash) s.user, true⟩) := by
    simp [SessionMemory.answer, SessionTable.answer, hs, hexpired, hnext]
  have hdatabase : Database.serve d (.rotate hash newHash databaseId now) = (none, d) :=
    Database.serve_rotate_broken hprecise hs' (hnext _ _)
  refine ⟨fun h => absurd ⟨by simp [hs], hlate⟩ h, fun _ => ⟨?_, ?_, ?_⟩⟩
  · exact congrArg Prod.fst hmemory
  · exact congrArg Prod.fst hdatabase
  · exact congrArg Prod.snd hdatabase

/-- The old row goes first, so it does not matter that it is of the same user. -/
theorem agree_rotate_found (h : Alike name table d)
    (ht : Admissible name ⟨⟨table, false⟩, d⟩ ⟨.rotate hash newHash newId now, databaseId⟩)
    {s s' : Session} (hs : (table.live now).find? hash = some s)
    (hs' : (d.live now).find? hash = some s') (hseen : seen name s' = seen name s)
    {expiry : Instant} (hexpiry : now.add? Session.lifetime = some expiry) :
    Agree name ⟨⟨table, false⟩, d⟩ ⟨.rotate hash newHash newId now, databaseId⟩ := by
  have hprecise : Precise now := ht.precise now (List.mem_singleton_self now)
  have huser : s'.user = s.user := congrArg Seen.user hseen
  have hexpired := SessionTable.not_expired_of_find?_live hs
  have hnext : ∀ id u, Session.fresh? id u newHash now = some ⟨id, u, newHash, expiry, now⟩ := by
    intro id u
    rw [Session.fresh?, hexpiry]
    rfl
  have hfiled : filed? table (.rotate hash newHash databaseId now) =
      some ⟨databaseId, s.user, newHash, expiry, now⟩ := by
    rw [filed?, hs]
    exact hnext _ _
  have hrest := alike_erase (alike_live h now) hash
  have hfree : ∀ r ∈ Keyed.values ((table.live now).erase hash), r.tokenHash = newHash →
      r.user = s.user := by
    intro r hr
    obtain ⟨e, he, rfl⟩ := List.mem_map.mp hr
    exact ht.hash _ hfiled _ (List.mem_map_of_mem (f := (·.2)) (Keyed.mem_entries_erase.mp he).1)
  have hfits : ((d.live now).keep fun r => r.tokenHash ≠ hash).Fits
      ⟨databaseId, s'.user, newHash, expiry, now⟩ := by
    rw [huser]
    apply fits_of_hash hrest hfree
    intro r hr
    exact ht.id _ hfiled r (List.mem_filter.mp hr).1
  have hmemory : table.answer (.rotate hash newHash newId now) =
      (some (some s), SessionTable.file ((table.live now).erase hash)
        ⟨newId, s.user, newHash, expiry, now⟩) := by
    simp [SessionTable.answer, hs, hexpired, hnext]
  apply agree_of (t := ⟨.rotate hash newHash newId now, databaseId⟩) hmemory
    (Database.serve_rotate_found hprecise hs' (hnext _ _) hfits)
  · exact congrArg (fun x => Told.session (some x)) hseen.symm
  · apply alike_file hrest _ hfree hfits
    simp only [seen, huser, ht.named _ _ _ _ rfl]
  · rintro ⟨-, hlate⟩
    rw [hexpiry] at hlate
    cases hlate

theorem agree_rotate (h : Alike name table d)
    (ht : Admissible name ⟨⟨table, false⟩, d⟩ ⟨.rotate hash newHash newId now, databaseId⟩) :
    Agree name ⟨⟨table, false⟩, d⟩ ⟨.rotate hash newHash newId now, databaseId⟩ := by
  have hprecise : Precise now := ht.precise now (List.mem_singleton_self now)
  cases hs : (table.live now).find? hash with
  | none => exact agree_rotate_absent h hprecise hs
  | some s =>
    have hfound := find?_of_alike (alike_live h now) hash
    rw [hs] at hfound
    obtain ⟨s', hs', hseen⟩ := Option.map_eq_some_iff.mp hfound.symm
    cases hexpiry : now.add? Session.lifetime with
    | none => exact agree_rotate_late hprecise hs hs' hexpiry
    | some expiry => exact agree_rotate_found h ht hs hs' hseen hexpiry

end

/-! ## Deletions -/

theorem agree_deleteByHash (h : Alike name table d) (hash : String) :
    Agree name ⟨⟨table, false⟩, d⟩ ⟨.deleteByHash hash, databaseId⟩ := by
  apply agree_of (t := ⟨.deleteByHash hash, databaseId⟩) rfl (Database.serve_deleteByHash hash d) _
    (alike_erase h hash) id
  have hfound := congrArg Option.isSome (find?_of_alike h hash)
  rw [Option.isSome_map, Option.isSome_map] at hfound
  apply congrArg Told.yes
  rw [Bool.eq_iff_iff, hfound, decide_eq_true_iff, Tokens.find?, List.find?_isSome,
    List.length_pos_iff_exists_mem]
  simp

theorem agree_deleteForUser (h : Alike name table d) (user : UserId) :
    Agree name ⟨⟨table, false⟩, d⟩ ⟨.deleteForUser user, databaseId⟩ := by
  have hrest := alike_withoutUser h user
  apply agree_of (t := ⟨.deleteForUser user, databaseId⟩) rfl (Database.serve_deleteForUser user d) _
    hrest id
  have hsplit := length_filter_add d fun r => r.user = user
  have hsize := size_eq hrest
  apply congrArg Told.yes
  rw [Bool.eq_iff_iff, decide_eq_true_iff, decide_eq_true_iff, size_eq h]
  simp only [ne_eq, decide_not] at hsize
  omega

theorem agree_sweepExpired (h : Alike name table d) {now : Instant}
    (ht : Admissible name ⟨⟨table, false⟩, d⟩ ⟨.sweepExpired now, databaseId⟩) :
    Agree name ⟨⟨table, false⟩, d⟩ ⟨.sweepExpired now, databaseId⟩ := by
  have hlive := alike_live h now
  have hserve := Database.serve_sweepExpired (ht.precise now (List.mem_singleton_self now)) d
  apply agree_of (t := ⟨.sweepExpired now, databaseId⟩) rfl hserve _ hlive id
  have hsplit := length_filter_add d fun r => r.expiresAt ≤ now
  apply congrArg Told.count
  rw [size_eq h, size_eq hlive, ← hsplit]
  exact Nat.add_sub_cancel _ _

/-- One call keeps the stores in step. -/
theorem agree_turn {s : Stores} {t : Turn} (hlocked : s.memory.locked = false)
    (h : Alike name s.memory.table s.tokens) (ht : Admissible name s t) : Agree name s t := by
  obtain ⟨⟨table, locked⟩, d⟩ := s
  cases hlocked
  obtain ⟨call, databaseId⟩ := t
  cases call with
  | replace new => exact agree_replace h ht
  | findByHash hash now => exact agree_findByHash h ht
  | rotate hash newHash newId now => exact agree_rotate h ht
  | deleteByHash hash => exact agree_deleteByHash h hash
  | deleteForUser user => exact agree_deleteForUser h user
  | sweepExpired now => exact agree_sweepExpired h ht
  | ping => exact agree_of (t := ⟨.ping, databaseId⟩) rfl (Database.serve_ping d) rfl h id

end

/-! ## Call after call -/

/-- The stores after calls that the database can take and of which none is late. -/
inductive Reached [TransactionManager] (name : SessionId → ν) : List Turn → Stores → Prop
  | start : Reached name [] .empty
  | turn {past : List Turn} {s : Stores} {t : Turn} (h : Reached name past s)
      (ht : Admissible name s t) (hlate : ¬ Late s.memory.table t.call) :
      Reached name (past ++ [t]) (s.turn t)

theorem alike_of_reached [TransactionManager] {name : SessionId → ν} {past : List Turn} {s : Stores}
    (h : Reached name past s) :
    s.memory.locked = false ∧ Alike name s.memory.table s.tokens := by
  induction h with
  | start =>
    refine ⟨rfl, ?_, List.Perm.nil⟩
    intro e he
    cases he
  | turn h ht hlate ih =>
    obtain ⟨_, -, -, hafter⟩ := (agree_turn ih.1 ih.2 ht).answered hlate
    exact hafter

/-- Whatever of an id is seen, as long as the two ids of a rotation are not told apart,
both stores answer a call the same and hold the same sessions before and after it. A late
rotation breaks down in both, and the database goes back to what it had. -/
theorem stores_tell_the_same [TransactionManager] {name : SessionId → ν} {past : List Turn}
    {s : Stores} {t : Turn} (h : Reached name past s) (ht : Admissible name s t) :
    s.Same name ∧
    (¬ Late s.memory.table t.call → ∃ answer,
      tell name t.call (s.memory.answer t.call).1 = some (.ok answer) ∧
      tell name t.atDatabase (Database.serve s.tokens t.atDatabase).1 = some (.ok answer) ∧
      (s.turn t).Same name) ∧
    (Late s.memory.table t.call →
      (s.memory.answer t.call).1 = none ∧ (Database.serve s.tokens t.atDatabase).1 = none ∧
      (s.turn t).tokens = s.tokens) := by
  obtain ⟨hlocked, halike⟩ := alike_of_reached h
  have hagree := agree_turn hlocked halike ht
  refine ⟨⟨hlocked, halike.same⟩, fun hlate => ?_, hagree.broken⟩
  obtain ⟨answer, hmemory, hdatabase, hlocked', halike'⟩ := hagree.answered hlate
  exact ⟨answer, hmemory, hdatabase, hlocked', halike'.same⟩

section

open TransactionManager.CountingFirst

/-- A session that lasts almost to the end of the calendar. -/
def lasting : Session :=
  ⟨⟨.ofNat 1⟩, ⟨.ofNat 2⟩, "h", ⟨8210266876799999000000, by decide, by decide⟩,
    .epoch⟩

def filing : Turn := ⟨.replace lasting, ⟨.ofNat 0⟩⟩

def rotating (now : Instant) : Turn := ⟨.rotate "h" "k" ⟨.ofNat 3⟩ now, ⟨.ofNat 4⟩⟩

def finding : Turn := ⟨.findByHash "h" .epoch, ⟨.ofNat 0⟩⟩

theorem reached_filing : Reached (fun _ => ()) [filing] (Stores.empty.turn filing) := by
  have ht : Admissible (fun _ => ()) .empty filing := by
    refine ⟨by decide, fun _ _ _ _ _ => rfl, ?_, ?_⟩
    · intro _ _ r hr
      cases hr
    · intro _ _ r hr
      cases hr
  exact Reached.turn .start ht id

/-- There is one session, and the rotation is of that one. -/
theorem admissible_rotating (now : Instant) (h : Precise now) :
    Admissible (fun _ => ()) (Stores.empty.turn filing) (rotating now) := by
  have huser : ∀ new, filed? (Stores.empty.turn filing).memory.table (rotating now).atDatabase =
      some new → new.user = lasting.user := by
    intro new hnew
    obtain ⟨r, hr, hfresh⟩ := Option.bind_eq_some_iff.mp hnew
    have hmem := (Keyed.mem_entries_keep.mp (Keyed.find?_eq_some_iff.mp hr)).1
    cases List.mem_singleton.mp hmem
    exact (Session.fields_of_fresh? hfresh).1
  refine ⟨by simpa [rotating, instants] using h, fun _ _ _ _ _ => rfl, ?_, ?_⟩
  · intro new hnew r hr _
    obtain ⟨e, he, rfl⟩ := List.mem_map.mp hr
    cases List.mem_singleton.mp (Keyed.mem_entries_keep.mp he).1
    exact (huser new hnew).symm
  · intro new hnew r hr _
    cases List.mem_singleton.mp (List.mem_filter.mp hr).1
    exact (huser new hnew).symm

theorem stores_tell_the_same_of_a_rotation :
    Reached (fun _ => ()) [filing] (Stores.empty.turn filing) ∧
    Admissible (fun _ => ()) (Stores.empty.turn filing) (rotating ⟨1000, by decide, by decide⟩) ∧
    ((Stores.empty.turn filing).turn (rotating ⟨1000, by decide, by decide⟩)).Same fun _ => () := by
  have ht := admissible_rotating ⟨1000, by decide, by decide⟩ (by decide)
  have hlate : ¬ Late (Stores.empty.turn filing).memory.table
      (rotating ⟨1000, by decide, by decide⟩).call := by
    rintro ⟨-, hlate⟩
    cases hlate
  obtain ⟨_, -, -, hsame⟩ := (stores_tell_the_same reached_filing ht).2.1 hlate
  exact ⟨reached_filing, ht, hsame⟩

/-- A rotation in the last millisecond of the calendar but one. -/
def lateRotation : Turn := rotating ⟨8210266876799998000000, by decide, by decide⟩

/-- After a late rotation the store in memory refuses to work, and the one in the database
still has the session. -/
theorem a_late_rotation_parts_the_stores :
    Reached (fun _ => ()) [filing] (Stores.empty.turn filing) ∧
    Admissible (fun _ => ()) (Stores.empty.turn filing) lateRotation ∧
    Admissible (fun _ => ()) ((Stores.empty.turn filing).turn lateRotation) finding ∧
    tell (fun _ => ()) finding.call
      (((Stores.empty.turn filing).turn lateRotation).memory.answer finding.call).1 =
        some (.error SessionMemory.lockedError) ∧
    tell (fun _ => ()) finding.atDatabase
      (Database.serve ((Stores.empty.turn filing).turn lateRotation).tokens finding.atDatabase).1 =
        some (.ok (.session (some (seen (fun _ => ()) lasting)))) := by
  have hfinding : Admissible (fun _ => ()) ((Stores.empty.turn filing).turn lateRotation) finding := by
    refine ⟨by decide, fun _ _ _ _ _ => rfl, ?_, ?_⟩
    · intro _ hnew
      cases hnew
    · intro _ hnew
      cases hnew
  exact ⟨reached_filing, admissible_rotating _ (by decide), hfinding, rfl, rfl⟩

end

end TenantAuth.Postgres
