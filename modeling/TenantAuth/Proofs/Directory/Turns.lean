-- The directory in memory, turn after turn: calls, and users who are put in by hand. No
-- two users ever have one email, everything stands under its own id, everybody's
-- organization is there, and a turn that is refused leaves no trace.

import Mathlib.Data.List.Induction
import TenantAuth.Proofs.Directory

namespace TenantAuth.Directory

/-! ## Turns -/

/-- A call, or a user who is put in by hand: a new one, or one in place of another that has
the same id. -/
inductive Turn where
  | insert (p : Principal) (now : Instant)
  | call (c : DirectoryCall)
  deriving DecidableEq

abbrev Turn.Answer : Turn → Type
  | .insert .. => Unit
  | .call c => c.Answer

def turn (d : Directory) : (t : Turn) → Except StoreError t.Answer × Directory
  | .insert p now => d.insert p now
  | .call c => d.answer c

/-- The directory after turns, the first of them with an empty one. -/
def after (past : List Turn) : Directory := past.foldl (fun d t => (d.turn t).2) .empty

theorem after_snoc (past : List Turn) (t : Turn) :
    after (past ++ [t]) = ((after past).turn t).2 := by simp [after]

theorem turned_turn (d : Directory) (t : Turn) : d.Turned (d.turn t) := by
  cases t with
  | insert p now => exact turned_insert d p now
  | call c =>
    cases c with
    | findById | findByEmail | listByOrganization => exact .kept _
    | createOrganization name email ownerName new =>
      exact turned_createOrganization d name email ownerName new
    | addUser o email name new => exact turned_addUser d o email name new
    | provisionOwner email name new => exact (turned_createOrganization d name email name new).map _

/-- What is refused leaves no trace. -/
theorem turn_of_error {d : Directory} {t : Turn} {e : StoreError} (h : (d.turn t).1 = .error e) :
    (d.turn t).2 = d := by
  have hturned := d.turned_turn t
  generalize d.turn t = reply at h hturned
  cases hturned with
  | kept => rfl
  | filed => cases h

/-! ## Directories in order -/

/-- Everything stands under its own id, no two users have one email, and everybody's
organization is there. -/
structure InOrder (d : Directory) : Prop extends d.Sound where
  named : ∀ e ∈ d.organizations.entries, e.1 = e.2.id
  homed : ∀ p ∈ d.users.values, (d.organizations.find? p.organization).isSome

theorem inOrder_empty : InOrder .empty where
  keyed _ he := (List.not_mem_nil he).elim
  emails _ hp := (List.not_mem_nil hp).elim
  named _ he := (List.not_mem_nil he).elim
  homed _ hp := (List.not_mem_nil hp).elim

theorem mem_values_of_mem_put {κ α : Type} [DecidableEq κ] {m : Keyed κ α} {k : κ} {v w : α}
    (h : w ∈ (m.put k v).values) : w = v ∨ w ∈ m.values := by
  obtain ⟨e, he, rfl⟩ := List.mem_map.mp h
  rcases Keyed.mem_entries_put.mp he with rfl | ⟨he, -⟩
  · exact Or.inl rfl
  · exact Or.inr (List.mem_map_of_mem he)

theorem inOrder_filed {d d' : Directory} {p : Principal} (h : d.InOrder) (hfiled : d.Filed d' p) :
    d'.InOrder := by
  have hsound : d'.Sound := sound_step h.toSound (.filed p hfiled.free hfiled.users)
  rcases hfiled.organizations with ⟨hhome, hsame⟩ | ⟨o, ho, hput⟩
  · refine ⟨hsound, by rw [hsame]; exact h.named, fun q hq => ?_⟩
    rw [hfiled.users] at hq
    rw [hsame]
    rcases mem_values_of_mem_put hq with rfl | hq
    · exact hhome
    · exact h.homed q hq
  · refine ⟨hsound, fun e he => ?_, fun q hq => ?_⟩
    · rw [hput, Keyed.mem_entries_put] at he
      rcases he with rfl | ⟨he, -⟩
      · rfl
      · exact h.named e he
    · rw [hfiled.users] at hq
      rw [hput, Keyed.find?_put]
      split
      · rfl
      · next hne =>
        rcases mem_values_of_mem_put hq with rfl | hq
        · exact absurd ho.symm hne
        · exact h.homed q hq

theorem inOrder_turn {d : Directory} (h : d.InOrder) (t : Turn) : (d.turn t).2.InOrder := by
  have hturned := d.turned_turn t
  generalize d.turn t = reply at hturned
  cases hturned with
  | kept => exact h
  | filed _ hfiled => exact inOrder_filed h hfiled

theorem inOrder_after (past : List Turn) : (after past).InOrder := by
  induction past using List.reverseRecOn with
  | nil => exact inOrder_empty
  | append_singleton past t ih =>
    rw [after_snoc]
    exact inOrder_turn ih t

theorem Sound.nodup_emails {d : Directory} (h : d.Sound) :
    (d.users.values.map (·.email)).Nodup :=
  h.nodup_values.map_on fun _ hp _ hq hemail => h.eq_of_email_eq hp hq hemail

/-- The one user with an email is found in whatever order the users stand. -/
theorem findByEmail?_eq_some_iff {d d' : Directory} (h : d.Sound)
    (hperm : d'.users.entries.Perm d.users.entries) {email : String} {p : Principal} :
    d'.findByEmail? email = some p ↔ p ∈ d.users.values ∧ p.email = email := by
  have hmem : ∀ q, q ∈ d'.users.values ↔ q ∈ d.users.values := fun q => (hperm.map _).mem_iff
  have hfound : ∀ q, d'.findByEmail? email = some q → q ∈ d.users.values ∧ q.email = email := by
    intro q hq
    exact ⟨(hmem q).mp (List.mem_of_find?_eq_some hq), by simpa using List.find?_some hq⟩
  constructor
  · exact hfound p
  · rintro ⟨hp, rfl⟩
    have hsome : (d'.findByEmail? p.email).isSome :=
      List.find?_isSome.mpr ⟨p, (hmem p).mpr hp, decide_eq_true rfl⟩
    obtain ⟨q, hq⟩ := Option.isSome_iff_exists.mp hsome
    rw [hq, h.eq_of_email_eq (hfound q hq).1 hp (hfound q hq).2]

/-- After turns of any kind no two users have one email, everything stands under its own id
and everybody's organization is there. A look-up by email finds the one user who has it, or
nobody, in whatever order the users stand, and a turn that is refused changes nothing. -/
theorem turns_leave_the_directory_in_order (past : List Turn) :
    (after past).InOrder ∧ ((after past).users.values.map (·.email)).Nodup ∧
    (∀ d' : Directory, d'.users.entries.Perm (after past).users.entries → ∀ email,
      ∃ found, (d'.answer (.findByEmail email)).1 = .ok found ∧
        ∀ p, found = some p ↔ p ∈ (after past).users.values ∧ p.email = email) ∧
    ∀ t e, ((after past).turn t).1 = .error e → ((after past).turn t).2 = after past := by
  have h := inOrder_after past
  refine ⟨h, h.nodup_emails, fun d' hperm email => ⟨d'.findByEmail? email, rfl, fun p => ?_⟩, ?_⟩
  · exact findByEmail?_eq_some_iff h.toSound hperm
  · exact fun t e => turn_of_error

/-- An organization with two users, one of whom is put in again with another email and in
another organization. -/
def acmeTurns : List Turn :=
  [.call (.createOrganization "Acme" "olive@acme.org" "Olive" ⟨⟨.ofNat 1⟩, .epoch, ⟨.ofNat 2⟩, .epoch⟩),
   .call (.addUser ⟨.ofNat 1⟩ "sam@acme.org" "Sam" ⟨⟨.ofNat 3⟩, .epoch⟩),
   .insert (.fresh ⟨.ofNat 3⟩ ⟨.ofNat 4⟩ "sam@initech.org" "Sam" .admin .epoch) .epoch]

/-- The same users, in the opposite order. -/
def turnedRound (d : Directory) : Directory :=
  { d with users :=
    ⟨d.users.entries.reverse, by
      rw [List.map_reverse]
      exact List.nodup_reverse.mpr d.users.distinct⟩ }

/-- Sam is found by the new email alone, and Olive cannot be given that email. -/
theorem the_acme_directory_is_in_order :
    (turnedRound (after acmeTurns)).users.entries.Perm (after acmeTurns).users.entries ∧
    (after acmeTurns).InOrder ∧
    (∃ found, ((turnedRound (after acmeTurns)).answer (.findByEmail "sam@initech.org")).1 = .ok found ∧
      ∀ p, found = some p ↔ p ∈ (after acmeTurns).users.values ∧ p.email = "sam@initech.org") ∧
    ((after acmeTurns).turn (.insert
      (.fresh ⟨.ofNat 2⟩ ⟨.ofNat 1⟩ "sam@initech.org" "Olive" .owner .epoch) .epoch)).2 = after acmeTurns := by
  have hperm := List.reverse_perm (after acmeTurns).users.entries
  obtain ⟨hinOrder, -, hfind, hrefused⟩ := turns_leave_the_directory_in_order acmeTurns
  exact ⟨hperm, hinOrder, hfind (turnedRound (after acmeTurns)) hperm _, hrefused _ _ rfl⟩

end TenantAuth.Directory
