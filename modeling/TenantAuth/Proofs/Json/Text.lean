-- Values of the domain and their JSON texts. What is written comes back, and so does what was read
-- once from a text of any other shape: a record may stand there as an object, its fields in any
-- order and among others, or as an array of its fields.

import Mathlib.Data.List.Forall2
import TenantAuth.Proofs.Json.Record

namespace TenantAuth.Json

/-! ## Texts -/

/-- What a JSON text says to a reader of values. -/
def readText {α : Type} (read : Read → Option α) (s : String) : Option α := (ofString? s).bind read

theorem ofString?_render {v : Json String} (hv : v.Numeric) :
    ofString? v.render = some v.asRead := by
  unfold ofString? render
  rw [String.toList_ofList]
  exact parse?_chars hv

theorem readText_render {α : Type} {read : Read → Option α} {v : Json String} (hv : v.Numeric) :
    readText read v.render = read v.asRead := by
  simp [readText, ofString?_render hv]

theorem readText_eq_some_iff {α : Type} {read : Read → Option α} {s : String} {a : α} :
    readText read s = some a ↔ ∃ v, ofString? s = some v ∧ read v = some a := by
  simp [readText, Option.bind_eq_some_iff]

theorem string?_eq_some_iff {v : Read} {s : String} :
    v.string? = some s ↔ v = .string (.text s) := by
  constructor
  · intro h
    unfold string? at h
    split at h
    · next spelling =>
      cases spelling with
      | text t =>
        obtain rfl := Option.some.inj h
        rfl
      | broken fault => cases h
    · cases h
  · rintro rfl
    rfl

theorem caseName?_eq_some_iff {v : Read} {name : String} :
    v.caseName? = some name ↔ v = .string (.text name) ∨ v = .object [(.text name, .null)] := by
  have htext : ∀ spelling : Spelling, spelling.text? = some name ↔ spelling = .text name := by
    intro spelling
    cases spelling <;> simp [Spelling.text?]
  unfold caseName?
  split <;> simp_all

/-! ## Arrays -/

theorem numericItems_iff {σ : Type} {vs : List (Json σ)} :
    NumericItems vs ↔ ∀ v ∈ vs, v.Numeric := by
  induction vs with
  | nil => simp [NumericItems]
  | cons v vs ih => simp [NumericItems, ih]

theorem asRead_array (vs : List (Json String)) : asRead (.array vs) = .array (vs.map asRead) := by
  have hitems : mapItems Spelling.text vs = vs.map asRead := by
    induction vs with
    | nil => rfl
    | cons v vs ih =>
      simp only [mapItems, ih]
      rfl
  rw [asRead, map, hitems]

/-- Items that are written one by one are read one by one. -/
theorem mapM_asRead {α : Type} {write : α → Json String} {read : Read → Option α}
    (h : ∀ a, read (write a).asRead = some a) (as : List α) :
    ((as.map write).map asRead).mapM read = some as := by
  induction as with
  | nil => rfl
  | cons a as ih =>
    simp only [List.map_cons, List.mapM_cons, h, ih]
    rfl

@[simp] theorem strings?_ofStrings (ss : List String) :
    (ofStrings ss).asRead.strings? = some ss := by
  unfold ofStrings
  simp only [asRead_array, strings?, array?, Option.bind_some]
  exact mapM_asRead string?_asRead ss

theorem numeric_ofStrings (ss : List String) : (ofStrings ss).Numeric := by
  unfold ofStrings Numeric
  rw [numericItems_iff]
  intro v hv
  obtain ⟨s, -, rfl⟩ := List.mem_map.1 hv
  trivial

/-! ## Records -/

/-- The fields of a record as a value gives them, in the order of their names: by name, where each
stands at most once and the other members do not count, or one behind the other. -/
inductive Fields (names : List String) : Read → List (Option Read) → Prop
  | named {members : List (Spelling × Read)} {fields : List (Option Read)}
      (keys : ∀ m ∈ members, m.1.isText = true)
      (each : List.Forall₂ (fun name field => valuesOf name members = field.toList) names fields) :
      Fields names (.object members) fields
  | inOrder {items : List Read} (length : items.length = names.length) :
      Fields names (.array items) (items.map some)

theorem single?_eq_some_iff {name : String} {members : List (Spelling × Read)}
    {field : Option Read} :
    single? name members = some field ↔ valuesOf name members = field.toList := by
  unfold single?
  cases field with
  | none => split <;> simp_all
  | some v => split <;> simp_all

theorem mapM_eq_some_iff {α β : Type} {f : α → Option β} {xs : List α} {ys : List β} :
    xs.mapM f = some ys ↔ List.Forall₂ (fun x y => f x = some y) xs ys := by
  induction xs generalizing ys with
  | nil => simp [eq_comm]
  | cons x xs ih =>
    simp only [List.mapM_cons, Option.bind_eq_bind, Option.pure_def, Option.bind_eq_some_iff,
      Option.some.injEq, ih, List.forall₂_cons_left_iff]
    constructor
    · rintro ⟨y, hy, ys', hys', rfl⟩
      exact ⟨y, ys', hy, hys', rfl⟩
    · rintro ⟨y, ys', hy, hys', rfl⟩
      exact ⟨y, hy, ys', hys', rfl⟩

theorem record?_eq_some_iff {names : List String} {v : Read} {fields : List (Option Read)} :
    v.record? names = some fields ↔ Fields names v fields := by
  constructor
  · intro h
    unfold record? at h
    split at h
    · split at h
      · next hlength =>
        obtain rfl := Option.some.inj h
        exact .inOrder hlength
      · cases h
    · split at h
      · next hkeys =>
        rw [mapM_eq_some_iff] at h
        simp only [single?_eq_some_iff] at h
        exact .named (List.all_eq_true.1 hkeys) h
      · cases h
    · cases h
  · intro h
    cases h with
    | inOrder length => simp only [record?, if_pos length]
    | named keys each =>
      simp only [record?, if_pos (List.all_eq_true.2 keys)]
      rw [mapM_eq_some_iff]
      simpa only [single?_eq_some_iff] using each

/-- A text says this in a field of a record that has fields of these names. -/
def Says (names : List String) (s name : String) (x : Read) : Prop :=
  ∃ v fields, ofString? s = some v ∧ Fields names v fields ∧ (name, some x) ∈ names.zip fields

/-- A record that is written gives its fields. -/
theorem fields_asRead {ms : List (String × Json String)} (hms : (ms.map (·.1)).Nodup) :
    Fields (ms.map (·.1)) (asRead (.object ms)) (ms.map fun m => some m.2.asRead) :=
  record?_eq_some_iff.1 (record?_asRead hms)

theorem says_render {ms : List (String × Json String)} (hms : (ms.map (·.1)).Nodup)
    (hnumeric : (object ms).Numeric) {name : String} {x : Json String} (hx : (name, x) ∈ ms) :
    Says (ms.map (·.1)) (object ms).render name x.asRead := by
  refine ⟨_, _, ofString?_render hnumeric, fields_asRead hms, ?_⟩
  rw [List.zip_map', List.mem_map]
  exact ⟨_, hx, rfl⟩

end TenantAuth.Json
