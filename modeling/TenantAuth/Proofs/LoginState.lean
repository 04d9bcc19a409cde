-- The states of logins, as their past has them. Whether a state still works is
-- told by the calls made before alone, and sweeping away what is over is never
-- noticed.

import Mathlib.Data.List.Induction
import TenantAuth.LoginState

namespace TenantAuth.LoginStates

/-! ## Histories -/

/-- One call on the states that are out. -/
inductive Visit where
  | file (token : String) (ttl : Nat) (now : Instant)
  | consume (token : String) (now : Instant)
  | sweep (now : Instant)
  deriving DecidableEq

namespace Visit

def time : Visit → Instant
  | file _ _ now | consume _ now | sweep now => now

/-- The call hands out the state, or takes it back. -/
def Touches (token : String) : Visit → Prop
  | file s _ _ | consume s _ => s = token
  | sweep _ => False

def files (token : String) : Visit → Bool
  | file s _ _ => s = token
  | consume .. | sweep _ => false

def sweeps : Visit → Bool
  | sweep _ => true
  | file .. | consume .. => false

def serve : Visit → LoginStates → LoginStates
  | file token ttl now, t => t.file token ttl now
  | consume token now, t => (LoginStates.consume token now t).2
  | sweep now, t => (LoginStates.sweep now t).2

/-- The call takes back a state that still works. -/
def honours (token : String) : Visit → LoginStates → Bool
  | consume s now, t => s = token && (LoginStates.consume s now t).1
  | file .. , _ | sweep _, _ => false

end Visit

def run (t : LoginStates) (calls : List Visit) : LoginStates :=
  calls.foldl (fun t v => v.serve t) t

/-- The states that are out after some calls, from none at all. -/
def after (past : List Visit) : LoginStates := run .empty past

/-- What is answered when a state comes back after some calls. -/
def answer (past : List Visit) (token : String) (now : Instant) : Bool :=
  (consume token now (after past)).1

/-- How often a state is honoured in some calls. -/
def honoured (token : String) : LoginStates → List Visit → Nat
  | _, [] => 0
  | t, v :: calls => (v.honours token t).toNat + honoured token (v.serve t) calls

/-- Times never run back. -/
def Ordered (calls : List Visit) : Prop := (calls.map Visit.time).Pairwise (· ≤ ·)

/-- The state was handed out at `start`, for `ttl` nanoseconds; since then it was
neither handed out again nor taken back. -/
def Stands (past : List Visit) (token : String) (ttl : Nat) (start : Instant) : Prop :=
  ∃ before since, past = before ++ .file token ttl start :: since ∧
    ∀ v ∈ since, ¬ v.Touches token

/-- The last nanosecond at which a state works, within the calendar. -/
def deadline (ttl : Nat) (start : Instant) : Int :=
  min (start.nanos + ttl) Instant.latest.nanos

def withoutSweeps (calls : List Visit) : List Visit := calls.filter fun v => !v.sweeps

theorem after_snoc (past : List Visit) (v : Visit) : after (past ++ [v]) = v.serve (after past) := by
  simp [after, run]

/-! ## The past of a state -/

theorem expiry_nanos (ttl : Nat) (start : Instant) : (expiry ttl start).nanos = deadline ttl start := by
  unfold expiry deadline Instant.addCapped Instant.add? Instant.ofNanos?
  have hlow := start.start_le
  split
  · rename_i h
    simp only [Option.getD_some, Instant.latest]
    omega
  · rename_i h
    simp only [Option.getD_none, Instant.latest]
    omega

theorem not_stands_nil {token : String} {ttl : Nat} {start : Instant} :
    ¬ Stands [] token ttl start := by
  rintro ⟨before, since, h, -⟩
  simp at h

theorem stands_snoc {past : List Visit} {v : Visit} {token : String} {ttl : Nat} {start : Instant} :
    Stands (past ++ [v]) token ttl start ↔
      v = .file token ttl start ∨ (¬ v.Touches token ∧ Stands past token ttl start) := by
  constructor
  · rintro ⟨before, since, heq, hsince⟩
    rcases List.eq_nil_or_concat since with rfl | ⟨since, last, rfl⟩
    · obtain ⟨-, hv⟩ := List.append_inj' heq rfl
      exact Or.inl (by simpa using hv)
    · have heq' : past ++ [v] = (before ++ .file token ttl start :: since) ++ [last] := by
        simpa using heq
      obtain ⟨hpast, hv⟩ := List.append_inj' heq' rfl
      have hlast : v = last := by simpa using hv
      subst hlast
      exact Or.inr ⟨hsince v (by simp), before, since, hpast, fun w hw => hsince w (by simp [hw])⟩
  · rintro (rfl | ⟨hv, before, since, rfl, hsince⟩)
    · exact ⟨past, [], rfl, by simp⟩
    · refine ⟨before, since ++ [v], by simp, ?_⟩
      intro w hw
      rcases List.mem_append.mp hw with hw | hw
      · exact hsince w hw
      · rw [List.mem_singleton.mp hw]
        exact hv

/-- A sweep hands nothing out and takes nothing back. -/
theorem stands_withoutSweeps (past : List Visit) (token : String) (ttl : Nat) (start : Instant) :
    Stands (withoutSweeps past) token ttl start ↔ Stands past token ttl start := by
  induction past using List.reverseRecOn with
  | nil => simp [withoutSweeps]
  | append_singleton past v ih =>
    have hsplit : withoutSweeps (past ++ [v]) = withoutSweeps past ++ withoutSweeps [v] :=
      List.filter_append ..
    rw [hsplit, stands_snoc]
    cases v with
    | sweep now => simpa [withoutSweeps, Visit.sweeps, Visit.Touches] using ih
    | file s ttl' now =>
      simp only [withoutSweeps, Visit.sweeps, List.filter_cons, Bool.not_false, if_true,
        List.filter_nil] at ih ⊢
      rw [stands_snoc, ih]
    | consume s now =>
      simp only [withoutSweeps, Visit.sweeps, List.filter_cons, Bool.not_false, if_true,
        List.filter_nil] at ih ⊢
      rw [stands_snoc, ih]

/-! ## What a call does to the states that work -/

/-- The state works at a time. -/
def Works (t : LoginStates) (token : String) (now : Instant) : Prop :=
  ∃ last, t.find? token = some last ∧ now ≤ last

theorem consume_eq_true_iff {t : LoginStates} {token : String} {now : Instant} :
    (consume token now t).1 = true ↔ Works t token now := by
  unfold consume Works
  cases t.find? token with
  | none => simp
  | some last => simp

theorem works_file {t : LoginStates} {s token : String} {ttl : Nat} {start now : Instant} :
    Works (t.file s ttl start) token now ↔
      (s = token ∧ now.nanos ≤ deadline ttl start) ∨ (s ≠ token ∧ Works t token now) := by
  unfold Works file
  rw [Keyed.find?_put]
  by_cases h : token = s
  · subst h
    simp [Instant.le_def, expiry_nanos]
  · simp [h, Ne.symm h]

theorem works_consume {t : LoginStates} {s token : String} {start now : Instant} :
    Works (consume s start t).2 token now ↔ s ≠ token ∧ Works t token now := by
  unfold Works consume
  rw [Keyed.find?_erase]
  by_cases h : token = s
  · simp [h]
  · simp [h, Ne.symm h]

/-- A sweep takes out nothing that would still work later. -/
theorem works_sweep {t : LoginStates} {token : String} {start now : Instant} (h : start ≤ now) :
    Works (sweep start t).2 token now ↔ Works t token now := by
  unfold Works sweep
  simp only [Keyed.find?_keep, Option.filter_eq_some_iff, decide_eq_true_eq]
  constructor
  · rintro ⟨last, ⟨hfind, -⟩, hnow⟩
    exact ⟨last, hfind, hnow⟩
  · rintro ⟨last, hfind, hnow⟩
    rw [Instant.le_def] at h hnow
    exact ⟨last, ⟨hfind, Instant.le_def.mpr (by omega)⟩, hnow⟩

/-- Where no call of the past is later than `now`, a state works exactly if it stands
and its time is not over. -/
theorem works_after_iff {past : List Visit} {token : String} {now : Instant}
    (h : ∀ v ∈ past, v.time ≤ now) :
    Works (after past) token now ↔
      ∃ ttl start, Stands past token ttl start ∧ now.nanos ≤ deadline ttl start := by
  induction past using List.reverseRecOn with
  | nil => simp [Works, after, run, not_stands_nil]
  | append_singleton past v ih =>
    have ih := ih fun w hw => h w (by simp [hw])
    simp only [after_snoc, stands_snoc]
    cases v with
    | file s ttl start =>
      rw [Visit.serve, works_file, ih]
      constructor
      · rintro (⟨rfl, hnow⟩ | ⟨hs, ttl', start', hstands, hnow⟩)
        · exact ⟨ttl, start, Or.inl rfl, hnow⟩
        · exact ⟨ttl', start', Or.inr ⟨hs, hstands⟩, hnow⟩
      · rintro ⟨ttl', start', heq | ⟨hs, hstands⟩, hnow⟩
        · cases heq
          exact Or.inl ⟨rfl, hnow⟩
        · exact Or.inr ⟨hs, ttl', start', hstands, hnow⟩
    | consume s start =>
      rw [Visit.serve, works_consume, ih]
      constructor
      · rintro ⟨hs, ttl', start', hstands, hnow⟩
        exact ⟨ttl', start', Or.inr ⟨hs, hstands⟩, hnow⟩
      · rintro ⟨ttl', start', heq | ⟨hs, hstands⟩, hnow⟩
        · cases heq
        · exact ⟨hs, ttl', start', hstands, hnow⟩
    | sweep start =>
      rw [Visit.serve, works_sweep (show start ≤ now from h (.sweep start) (by simp)), ih]
      simp [Visit.Touches]

theorem answer_eq_true_iff {past : List Visit} {token : String} {now : Instant}
    (h : Ordered (past ++ [.consume token now])) :
    answer past token now = true ↔
      ∃ ttl start, Stands past token ttl start ∧ now.nanos ≤ deadline ttl start := by
  unfold answer
  rw [consume_eq_true_iff]
  apply works_after_iff
  intro v hv
  unfold Ordered at h
  rw [List.map_append, List.pairwise_append] at h
  exact h.2.2 v.time (List.mem_map_of_mem hv) now (by simp [Visit.time])

/-! ## Times in any order -/

/-- One if the state is out, whether or not it still works. -/
def out (t : LoginStates) (token : String) : Nat := (t.find? token).isSome.toNat

/-- A state that is honoured is out no longer, and only handing it out brings it back. -/
theorem honours_add_out_le (token : String) (t : LoginStates) (v : Visit) :
    (v.honours token t).toNat + out (v.serve t) token ≤ out t token + (v.files token).toNat := by
  cases v with
  | file s ttl now =>
    by_cases h : s = token
    · simp [Visit.honours, Visit.files, Visit.serve, out, file, Keyed.find?_put, h]
    · simp [Visit.honours, Visit.files, Visit.serve, out, file, Keyed.find?_put, h, Ne.symm h]
  | consume s now =>
    by_cases h : s = token
    · subst h
      cases hfind : t.find? s with
      | none => simp [Visit.honours, Visit.files, Visit.serve, out, consume, Keyed.find?_erase, hfind]
      | some last =>
        simp [Visit.honours, Visit.files, Visit.serve, out, consume, Keyed.find?_erase, hfind,
          Bool.toNat_le]
    · simp [Visit.honours, Visit.files, Visit.serve, out, consume, Keyed.find?_erase, h, Ne.symm h]
  | sweep now =>
    cases hfind : t.find? token with
    | none => simp [Visit.honours, Visit.files, Visit.serve, out, sweep, Keyed.find?_keep, hfind]
    | some last =>
      simp [Visit.honours, Visit.files, Visit.serve, out, sweep, hfind, Bool.toNat_le]

/-- What some calls honour, and what is out behind them, is paid for by the state that
was out before and by those that are handed out on the way. -/
theorem honoured_add_out_le (token : String) (t : LoginStates) (calls : List Visit) :
    honoured token t calls + out (run t calls) token ≤
      out t token + calls.countP (Visit.files token) := by
  induction calls generalizing t with
  | nil => simp [honoured, run]
  | cons v calls ih =>
    have hrest := ih (v.serve t)
    have hstep := honours_add_out_le token t v
    rw [honoured, List.countP_cons]
    simp only [run, List.foldl_cons] at hrest ⊢
    cases hfiles : v.files token <;> simp [hfiles] at hstep ⊢ <;> omega

/-- A state that was taken back works only once it is handed out again. -/
theorem answer_of_consumed (before : List Visit) {token : String} (start now : Instant)
    {since : List Visit} (h : ∀ v ∈ since, v.files token = false) :
    answer (before ++ .consume token start :: since) token now = false := by
  have hafter : after (before ++ .consume token start :: since) =
      run (consume token start (after before)).2 since := by
    simp [after, run, Visit.serve]
  have hgone : out (consume token start (after before)).2 token = 0 := by
    simp [out, consume, Keyed.find?_erase]
  have hcount : since.countP (Visit.files token) = 0 := by
    rw [List.countP_eq_zero]
    intro v hv
    simp [h v hv]
  have hle := honoured_add_out_le token (consume token start (after before)).2 since
  have hout : out (run (consume token start (after before)).2 since) token = 0 := by omega
  rw [← Bool.not_eq_true, answer, consume_eq_true_iff, hafter]
  rintro ⟨last, hfind, -⟩
  simp [out, hfind] at hout

/-! ## How many states are out -/

theorem consume_of_absent {t : LoginStates} {token : String} (h : t.find? token = none)
    (now : Instant) : (consume token now t).1 = false := by
  simp [consume, h]

theorem size_file_le (token : String) (ttl : Nat) (now : Instant) (t : LoginStates) :
    (t.file token ttl now).size ≤ t.size + 1 :=
  Nat.succ_le_succ (List.length_filter_le ..)

/-- A state that is honoured is one less to honour. -/
theorem consume_add_size_le (token : String) (now : Instant) (t : LoginStates) :
    (consume token now t).1.toNat + (consume token now t).2.size ≤ t.size := by
  cases hfind : t.find? token with
  | none =>
    rw [consume_of_absent hfind, Bool.toNat_false, Nat.zero_add]
    exact List.length_filter_le ..
  | some last =>
    have hmem : (token, last) ∈ t.entries := Keyed.find?_eq_some_iff.mp hfind
    have hlt : (consume token now t).2.size < t.size :=
      List.length_filter_lt_length_iff_exists.mpr ⟨_, hmem, by simp⟩
    have hone := Bool.toNat_le (consume token now t).1
    omega

/-! ## Sweeping -/

/-- A sweep keeps what would be honoured and drops what would be refused. -/
theorem sweep_eq (t : LoginStates) (now : Instant) :
    (sweep now t).2.entries = t.entries.filter (fun e => (consume e.1 now t).1) ∧
      (sweep now t).1 = t.entries.countP (fun e => !(consume e.1 now t).1) := by
  have hworks : ∀ e ∈ t.entries, decide (now ≤ e.2) = (consume e.1 now t).1 := by
    intro e he
    have hfind : t.find? e.1 = some e.2 := Keyed.find?_eq_some_iff.mpr he
    simp [consume, hfind]
  have hkept : (sweep now t).2.entries = t.entries.filter fun e => (consume e.1 now t).1 :=
    List.filter_congr hworks
  refine ⟨hkept, ?_⟩
  have hcount : (sweep now t).1 = t.entries.length - (sweep now t).2.entries.length := rfl
  have hsplit := List.length_eq_countP_add_countP (fun e => (consume e.1 now t).1) (l := t.entries)
  rw [hcount, hkept, ← List.countP_eq_length_filter]
  simp only [Bool.not_eq_true, Bool.decide_eq_false] at hsplit
  omega

/-! ## The law -/

/-- With times that never run back, a state is honoured exactly if it was handed out,
was not taken back since it last was, and its time is not over; sweeps make no
difference to that. In whatever order the times come, a state that was taken back is
refused until it is handed out again, no state is honoured more often than it was
handed out, and a sweep drops just what would be refused, and counts it. -/
theorem a_state_works_once_and_in_time (token : String) (now : Instant) :
    (∀ past, Ordered (past ++ [.consume token now]) →
      (answer past token now = true ↔
        ∃ ttl start, Stands past token ttl start ∧ now.nanos ≤ deadline ttl start)) ∧
    (∀ past past', Ordered (past ++ [.consume token now]) →
      Ordered (past' ++ [.consume token now]) → withoutSweeps past = withoutSweeps past' →
      answer past token now = answer past' token now) ∧
    (∀ before since start, (∀ v ∈ since, v.files token = false) →
      answer (before ++ .consume token start :: since) token now = false) ∧
    (∀ calls, honoured token .empty calls ≤ calls.countP (Visit.files token)) ∧
    (∀ t : LoginStates,
      (sweep now t).2.entries = t.entries.filter (fun e => (consume e.1 now t).1) ∧
      (sweep now t).1 = t.entries.countP (fun e => !(consume e.1 now t).1)) := by
  refine ⟨fun past h => answer_eq_true_iff h, ?_, ?_, ?_, fun t => sweep_eq t now⟩
  · intro past past' h h' heq
    rw [Bool.eq_iff_iff, answer_eq_true_iff h, answer_eq_true_iff h']
    simp only [← stands_withoutSweeps past, ← stands_withoutSweeps past', heq]
  · intro before since start h
    exact answer_of_consumed before start now h
  · intro calls
    have hle := honoured_add_out_le token .empty calls
    have hnone : out (.empty : LoginStates) token = 0 := rfl
    omega

/-- A state that is handed out, taken back, and handed out again. -/
def handedOutAgain : List Visit :=
  [.file "s" 10 .epoch, .consume "s" ⟨5, by decide, by decide⟩,
   .file "s" 10 ⟨6, by decide, by decide⟩, .file "t" 3 ⟨6, by decide, by decide⟩,
   .sweep ⟨16, by decide, by decide⟩]

/-- It works in its last nanosecond, also behind a sweep in that nanosecond. -/
theorem a_state_works_in_its_last_moment :
    Ordered (handedOutAgain ++ [.consume "s" ⟨16, by decide, by decide⟩]) ∧
      answer handedOutAgain "s" ⟨16, by decide, by decide⟩ = true := by
  have hordered : Ordered (handedOutAgain ++ [.consume "s" ⟨16, by decide, by decide⟩]) := by
    unfold Ordered
    decide
  refine ⟨hordered, ((a_state_works_once_and_in_time "s" _).1 handedOutAgain hordered).mpr ?_⟩
  refine ⟨10, ⟨6, by decide, by decide⟩, ⟨handedOutAgain.take 2, handedOutAgain.drop 3, rfl, ?_⟩,
    by decide⟩
  simp [handedOutAgain, Visit.Touches]

end TenantAuth.LoginStates
