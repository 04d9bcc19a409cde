-- Finite maps as lists of keys and values. A key stands in the list at most
-- once; in which order the keys stand never matters to the answers.

namespace TenantAuth

/-- A finite map from keys to values. -/
structure Keyed (κ α : Type) where
  entries : List (κ × α)
  distinct : (entries.map (·.1)).Nodup
  deriving DecidableEq

namespace Keyed

variable {κ α : Type}

def empty : Keyed κ α := ⟨[], .nil⟩

def size (m : Keyed κ α) : Nat := m.entries.length

def values (m : Keyed κ α) : List α := m.entries.map (·.2)

/-- Keep only the entries that pass a test. -/
def keep (p : κ → α → Bool) (m : Keyed κ α) : Keyed κ α where
  entries := m.entries.filter fun e => p e.1 e.2
  distinct := (List.filter_sublist.map _).nodup m.distinct

theorem mem_entries_keep {p : κ → α → Bool} {m : Keyed κ α} {e : κ × α} :
    e ∈ (m.keep p).entries ↔ e ∈ m.entries ∧ p e.1 e.2 = true := List.mem_filter

variable [DecidableEq κ]

def find? (m : Keyed κ α) (k : κ) : Option α := m.entries.lookup k

def erase (k : κ) (m : Keyed κ α) : Keyed κ α := m.keep fun k' _ => k' ≠ k

/-- File a value under a key, in place of what was there. -/
def put (k : κ) (v : α) (m : Keyed κ α) : Keyed κ α where
  entries := (k, v) :: (m.erase k).entries
  distinct := by
    rw [List.map_cons, List.nodup_cons]
    refine ⟨?_, (m.erase k).distinct⟩
    simp [erase, keep]

/-! ## Laws -/

theorem mem_entries_erase {m : Keyed κ α} {k : κ} {e : κ × α} :
    e ∈ (m.erase k).entries ↔ e ∈ m.entries ∧ e.1 ≠ k := by
  simp [erase, mem_entries_keep]

theorem mem_entries_put {m : Keyed κ α} {k : κ} {v : α} {e : κ × α} :
    e ∈ (m.put k v).entries ↔ e = (k, v) ∨ e ∈ m.entries ∧ e.1 ≠ k := by
  simp [put, mem_entries_erase]

theorem lookup_eq_some_iff {l : List (κ × α)} (h : (l.map (·.1)).Nodup) {k : κ} {v : α} :
    l.lookup k = some v ↔ (k, v) ∈ l := by
  induction l with
  | nil => simp
  | cons e l ih =>
    obtain ⟨k', v'⟩ := e
    rw [List.map_cons, List.nodup_cons] at h
    by_cases hk : k = k'
    · subst hk
      have : (k, v) ∉ l := fun hm => h.1 (List.mem_map_of_mem (f := (·.1)) hm)
      simp [this, eq_comm]
    · simp [List.lookup_cons, ih h.2, hk, show (k == k') = false by simpa using hk]

/-- What is found under a key is what is filed under it. -/
theorem find?_eq_some_iff {m : Keyed κ α} {k : κ} {v : α} :
    m.find? k = some v ↔ (k, v) ∈ m.entries := lookup_eq_some_iff m.distinct

@[simp] theorem find?_empty (k : κ) : (empty : Keyed κ α).find? k = none := rfl

theorem find?_put (m : Keyed κ α) (k k' : κ) (v : α) :
    (m.put k v).find? k' = if k' = k then some v else m.find? k' := by
  refine Option.ext fun w => ?_
  rw [find?_eq_some_iff, mem_entries_put]
  split
  · next h => simp [h, eq_comm]
  · next h => simp [h, find?_eq_some_iff]

theorem find?_erase (m : Keyed κ α) (k k' : κ) :
    (m.erase k).find? k' = if k' = k then none else m.find? k' := by
  refine Option.ext fun w => ?_
  rw [find?_eq_some_iff, mem_entries_erase]
  split
  · next h => simp [h]
  · next h => simp [h, find?_eq_some_iff]

/-- What is filed under a new key comes to what is there. -/
theorem entries_put_of_find?_eq_none {m : Keyed κ α} {k : κ} (h : m.find? k = none) (v : α) :
    (m.put k v).entries = (k, v) :: m.entries := by
  have hall : ∀ e ∈ m.entries, e.1 ≠ k := by
    intro e he heq
    have hfound : m.find? k = some e.2 := by
      rw [find?_eq_some_iff, ← heq]
      exact he
    rw [h] at hfound
    cases hfound
  change (k, v) :: m.entries.filter _ = _
  rw [List.filter_eq_self.mpr fun e he => by simpa using hall e he]

/-- Where everything is filed under its own key, what is found under a key is what has it. -/
theorem find?_eq_some_iff_of_keyed {m : Keyed κ α} {key : α → κ}
    (h : ∀ e ∈ m.entries, e.1 = key e.2) {k : κ} {v : α} :
    m.find? k = some v ↔ v ∈ m.values ∧ key v = k := by
  rw [find?_eq_some_iff]
  constructor
  · exact fun he => ⟨List.mem_map_of_mem (f := (·.2)) he, (h _ he).symm⟩
  · rintro ⟨hv, rfl⟩
    obtain ⟨e, he, rfl⟩ := List.mem_map.mp hv
    rw [← h e he]
    exact he

theorem find?_eq_find?_values {m : Keyed κ α} {key : α → κ} (h : ∀ e ∈ m.entries, e.1 = key e.2)
    (k : κ) : m.find? k = m.values.find? fun v => key v = k := by
  obtain ⟨entries, distinct⟩ := m
  change ∀ e ∈ entries, e.1 = key e.2 at h
  change entries.lookup k = (entries.map (·.2)).find? _
  clear distinct
  induction entries with
  | nil => rfl
  | cons e entries ih =>
    obtain ⟨k', v⟩ := e
    obtain ⟨rfl : k' = key v, hrest⟩ := List.forall_mem_cons.mp h
    by_cases hk : k = key v
    · simp [hk]
    · simp [List.lookup_cons, ih hrest, Ne.symm hk, show (k == key v) = false by simpa using hk]

theorem find?_keep (m : Keyed κ α) (p : κ → α → Bool) (k : κ) :
    (m.keep p).find? k = (m.find? k).filter (p k) := by
  refine Option.ext fun w => ?_
  rw [find?_eq_some_iff, mem_entries_keep, Option.filter_eq_some_iff, find?_eq_some_iff]

end Keyed

end TenantAuth
