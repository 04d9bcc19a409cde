-- Records as objects: the members of an object that was written, found again by
-- their names.

import TenantAuth.Proofs.Json.RoundTrip

namespace TenantAuth.Json

/-- The members of an object as they are read. -/
def membersAsRead (ms : List (String × Json String)) : List (Spelling × Read) :=
  ms.map fun m => (.text m.1, m.2.asRead)

theorem mapMembers_text (ms : List (String × Json String)) :
    mapMembers Spelling.text ms = membersAsRead ms := by
  induction ms with
  | nil => rfl
  | cons m ms ih =>
    rw [mapMembers, ih]
    rfl

theorem asRead_object (ms : List (String × Json String)) :
    asRead (.object ms) = .object (membersAsRead ms) := by
  rw [asRead, map, mapMembers_text]

@[simp] theorem string?_asRead (s : String) : (asRead (.string s)).string? = some s := rfl

/-! ## One name -/

theorem valuesOf_cons (k : String) (m : String × Json String) (ms : List (String × Json String)) :
    valuesOf k (membersAsRead (m :: ms))
      = if m.1 = k then m.2.asRead :: valuesOf k (membersAsRead ms)
        else valuesOf k (membersAsRead ms) := by
  by_cases h : m.1 = k <;> simp [valuesOf, membersAsRead, h]

theorem valuesOf_of_not_mem {ms : List (String × Json String)} {k : String}
    (h : k ∉ ms.map (·.1)) : valuesOf k (membersAsRead ms) = [] := by
  induction ms with
  | nil => rfl
  | cons m ms ih =>
    rw [List.map_cons, List.mem_cons, not_or] at h
    rw [valuesOf_cons, if_neg (Ne.symm h.1), ih h.2]

/-- What stands under a name, if every name is there once. -/
theorem valuesOf_of_mem {ms : List (String × Json String)} (hms : (ms.map (·.1)).Nodup)
    {m : String × Json String} (h : m ∈ ms) : valuesOf m.1 (membersAsRead ms) = [m.2.asRead] := by
  induction ms with
  | nil => simp at h
  | cons m' ms ih =>
    rw [List.map_cons, List.nodup_cons] at hms
    rcases List.mem_cons.1 h with rfl | h
    · rw [valuesOf_cons, if_pos rfl, valuesOf_of_not_mem hms.1]
    · have hne : m'.1 ≠ m.1 := fun heq => hms.1 (heq ▸ List.mem_map_of_mem h)
      rw [valuesOf_cons, if_neg hne, ih hms.2 h]

theorem single?_of_not_mem {ms : List (String × Json String)} {k : String}
    (h : k ∉ ms.map (·.1)) : single? k (membersAsRead ms) = some none := by
  rw [single?, valuesOf_of_not_mem h]

theorem single?_of_mem {ms : List (String × Json String)} (hms : (ms.map (·.1)).Nodup)
    {m : String × Json String} (h : m ∈ ms) :
    single? m.1 (membersAsRead ms) = some (some m.2.asRead) := by
  rw [single?, valuesOf_of_mem hms h]

/-! ## All names -/

/-- An object that was written with the fields of a record in their order is read
as that record. -/
theorem record?_asRead {ms : List (String × Json String)} (hms : (ms.map (·.1)).Nodup) :
    (asRead (.object ms)).record? (ms.map (·.1)) = some (ms.map fun m => some m.2.asRead) := by
  have htext : ((membersAsRead ms).all fun m => m.1.isText) = true := by
    simp [membersAsRead, Spelling.isText, Spelling.text?]
  have hfields : ∀ part : List (String × Json String), (∀ m ∈ part, m ∈ ms) →
      (part.map (·.1)).mapM (fun name => single? name (membersAsRead ms))
        = some (part.map fun m => some m.2.asRead) := by
    intro part hpart
    induction part with
    | nil => rfl
    | cons m part ih =>
      rw [List.forall_mem_cons] at hpart
      simp only [List.map_cons, List.mapM_cons, single?_of_mem hms hpart.1, ih hpart.2]
      rfl
  rw [asRead_object, record?, if_pos htext]
  exact hfields ms fun m hm => hm

/-! ## A record that was read -/

theorem getElem?_of_mapM {α β : Type} {f : α → Option β} {xs : List α} {ys : List β}
    (h : xs.mapM f = some ys) {i : Nat} {x : α} {y : β} (hx : xs[i]? = some x)
    (hy : ys[i]? = some y) : f x = some y := by
  induction xs generalizing ys i with
  | nil => simp at hx
  | cons x' xs ih =>
    simp only [List.mapM_cons, Option.bind_eq_bind, Option.pure_def, Option.bind_eq_some_iff,
      Option.some.injEq] at h
    obtain ⟨y', hy', ys', hys', rfl⟩ := h
    cases i with
    | zero =>
      obtain rfl := Option.some.inj hx
      obtain rfl := Option.some.inj hy
      exact hy'
    | succ i => exact ih hys' hx hy

/-- A field of a record is the one member of its name, or the item in its place. -/
theorem field_of_record? {names : List String} {v : Read} {fields : List (Option Read)}
    (h : v.record? names = some fields) {i : Nat} {name : String} {x : Read}
    (hname : names[i]? = some name) (hx : fields[i]? = some (some x)) :
    (∃ members, v = .object members ∧ valuesOf name members = [x])
      ∨ ∃ items, v = .array items ∧ items[i]? = some x := by
  unfold record? at h
  split at h
  · next items =>
    split at h
    · obtain rfl := Option.some.inj h
      exact Or.inr ⟨items, rfl, by simpa using hx⟩
    · simp at h
  · next members =>
    split at h
    · have hsingle := getElem?_of_mapM h hname hx
      refine Or.inl ⟨members, rfl, ?_⟩
      unfold single? at hsingle
      split at hsingle
      · simp at hsingle
      · next v' hv' =>
        simp only [Option.some.injEq] at hsingle
        rw [hv', hsingle]
      · simp at hsingle
    · simp at h
  · simp at h

end TenantAuth.Json
