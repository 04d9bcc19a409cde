-- Finite sets of texts, kept in order.

namespace TenantAuth

/-- A set of texts, listed in ascending order and without repeats. -/
structure TextSet where
  items : List String
  ascending : items.Pairwise (· < ·)
  deriving DecidableEq

namespace TextSet

def empty : TextSet := ⟨[], .nil⟩

/-- Put a text into its place, unless it is there. -/
def place (x : String) : List String → List String
  | [] => [x]
  | y :: ys => if x = y then y :: ys else if x < y then x :: y :: ys else y :: place x ys

theorem mem_place {x z : String} {ys : List String} : z ∈ place x ys ↔ z = x ∨ z ∈ ys := by
  induction ys with
  | nil => simp [place]
  | cons y ys ih =>
    simp only [place]
    split
    · next h => simp [h]
    · split <;> simp [ih, or_left_comm]

theorem pairwise_place {x : String} {ys : List String} (h : ys.Pairwise (· < ·)) :
    (place x ys).Pairwise (· < ·) := by
  induction ys with
  | nil => simp [place]
  | cons y ys ih =>
    rw [List.pairwise_cons] at h
    simp only [place]
    split
    · exact List.pairwise_cons.2 h
    · next hne =>
      split
      · next hlt =>
        refine List.pairwise_cons.2 ⟨fun z hz => ?_, List.pairwise_cons.2 h⟩
        rcases List.mem_cons.1 hz with rfl | hz
        · exact hlt
        · exact String.lt_trans hlt (h.1 z hz)
      · next hlt =>
        refine List.pairwise_cons.2 ⟨fun z hz => ?_, ih h.2⟩
        rcases mem_place.1 hz with rfl | hz
        · exact Decidable.byContradiction fun hn =>
            hne (String.le_antisymm (String.not_lt.1 hn) (String.not_lt.1 hlt))
        · exact h.1 z hz

def insert (x : String) (s : TextSet) : TextSet := ⟨place x s.items, pairwise_place s.ascending⟩

/-- The set of the texts of a list. -/
def ofList (xs : List String) : TextSet := xs.foldr insert empty

instance : Membership String TextSet := ⟨fun s x => x ∈ s.items⟩

instance (x : String) (s : TextSet) : Decidable (x ∈ s) := inferInstanceAs (Decidable (x ∈ s.items))

theorem mem_def {x : String} {s : TextSet} : x ∈ s ↔ x ∈ s.items := Iff.rfl

@[simp] theorem mem_insert {x y : String} {s : TextSet} : x ∈ insert y s ↔ x = y ∨ x ∈ s := mem_place

@[simp] theorem mem_ofList {x : String} {xs : List String} : x ∈ ofList xs ↔ x ∈ xs := by
  induction xs with
  | nil => simp [ofList, empty, mem_def]
  | cons y ys ih =>
    have : ofList (y :: ys) = insert y (ofList ys) := rfl
    simp [this, ih]

theorem place_of_lt {x : String} {ys : List String} (h : ∀ y ∈ ys, x < y) :
    place x ys = x :: ys := by
  cases ys with
  | nil => rfl
  | cons y ys =>
    have hlt := h y List.mem_cons_self
    have hne : x ≠ y := by
      rintro rfl
      exact String.lt_irrefl x hlt
    rw [place, if_neg hne, if_pos hlt]

/-- What is listed in order is the set that it was listed from. -/
theorem ofList_items (s : TextSet) : ofList s.items = s := by
  obtain ⟨items, ascending⟩ := s
  induction items with
  | nil => rfl
  | cons x xs ih =>
    obtain ⟨hfirst, hrest⟩ := List.pairwise_cons.mp ascending
    change insert x (ofList xs) = _
    rw [ih hrest]
    simp only [insert, place_of_lt hfirst]

end TextSet

end TenantAuth
