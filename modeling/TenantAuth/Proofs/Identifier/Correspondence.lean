-- Ids of each kind and their texts correspond one to one: what is read, what is shown of it, which
-- texts are one id, and in which order ids stand. The three kinds wrap the same numbers of 128
-- bits, so what holds of these holds of them.

import TenantAuth.Proofs.Identifier.Order

namespace TenantAuth

open Uuid

/-- Ids of a kind correspond to texts. `number` is the number of 128 bits that an id is. -/
structure Corresponds {Id : Type} [LE Id] (kind : String) (number : Id → Nat)
    (ofText : String → Except InvalidId Id) (toText : Id → String) : Prop where
  every : ∀ n, (∃ id, number id = n) ↔ n < 2 ^ 128
  /-- An id is shown by its digits in lower case, with hyphens between the groups. -/
  shown : ∀ id, Hyphenated (digits (number id)) (toText id).toList
  /-- What is shown of an id is read as that id. -/
  back : ∀ id, ofText (toText id) = .ok id
  /-- So are the digits of the id in either case, in each of the forms. -/
  read : ∀ id ds s, ds.map Char.toLower = digits (number id) → Written ds s.toList →
    ofText s = .ok id
  /-- Nothing else is read. The digits of a text are plain from it, and in lower case they are what
  is shown of the id. -/
  only : ∀ s id, ofText s = .ok id → ∃ ds, Spells s ds ∧ (∀ es, Spells s es → es = ds) ∧
    Hyphenated (ds.map Char.toLower) (toText id).toList
  /-- Two texts are read as one id exactly if their digits agree up to case. -/
  alike : ∀ s t, (∃ id, ofText s = .ok id ∧ ofText t = .ok id) ↔
    ∃ ds es, Spells s ds ∧ Spells t es ∧ ds.map Char.toLower = es.map Char.toLower
  refused : ∀ s, (¬ ∃ ds, Spells s ds) → ∃ reason, ofText s = .error ⟨kind, reason⟩
  /-- Ids stand in the order in which their texts do. -/
  ordered : ∀ a b, a ≤ b ↔ toText a ≤ toText b

/-- Ids of a kind are numbers under another name: they are read, shown and compared as these, and a
refusal names the kind. -/
structure Wraps {Id : Type} [LE Id] (kind : String) (wrap : Uuid → Id) (uuid : Id → Uuid)
    (ofText : String → Except InvalidId Id) (toText : Id → String) : Prop where
  uuid_wrap : ∀ u, uuid (wrap u) = u
  wrap_uuid : ∀ id, wrap (uuid id) = id
  ofText_eq : ∀ s, ofText s = match Uuid.ofText s with
    | .ok u => .ok (wrap u)
    | .error e => .error ⟨kind, e⟩
  toText_eq : ∀ id, toText id = (uuid id).toText
  le_iff : ∀ a b, a ≤ b ↔ uuid a ≤ uuid b

namespace Wraps

variable {Id : Type} [LE Id] {kind : String} {wrap : Uuid → Id} {uuid : Id → Uuid}
  {ofText : String → Except InvalidId Id} {toText : Id → String}

theorem ofText_eq_ok_iff (h : Wraps kind wrap uuid ofText toText) {s : String} {id : Id} :
    ofText s = .ok id ↔
      ∃ ds, Written ds s.toList ∧ ds.map Char.toLower = digits (uuid id).value := by
  rw [← Uuid.ofText_eq_ok_iff, h.ofText_eq]
  cases Uuid.ofText s with
  | error e => simp
  | ok u =>
    simp only [Except.ok.injEq]
    constructor
    · rintro rfl
      exact (h.uuid_wrap u).symm
    · rintro rfl
      exact h.wrap_uuid id

theorem refused (h : Wraps kind wrap uuid ofText toText) {s : String} (hs : ¬ ∃ ds, Spells s ds) :
    ∃ reason, ofText s = .error ⟨kind, reason⟩ := by
  rw [h.ofText_eq]
  cases hread : Uuid.ofText s with
  | error e => exact ⟨e, rfl⟩
  | ok u =>
    obtain ⟨ds, hwritten, hdigits⟩ := Uuid.ofText_eq_ok_iff.1 hread
    exact absurd ⟨ds, spells_of_digits hwritten hdigits⟩ hs

theorem shown (h : Wraps kind wrap uuid ofText toText) (id : Id) :
    Hyphenated (digits (uuid id).value) (toText id).toList := by
  rw [h.toText_eq, Uuid.toText, String.toList_ofList, ← hexDigits_eq_digits]
  exact hyphenated_chars _

theorem alike (h : Wraps kind wrap uuid ofText toText) (s t : String) :
    (∃ id, ofText s = .ok id ∧ ofText t = .ok id) ↔
      ∃ ds es, Spells s ds ∧ Spells t es ∧ ds.map Char.toLower = es.map Char.toLower := by
  constructor
  · rintro ⟨id, hs, ht⟩
    obtain ⟨ds, hwritten, hds⟩ := h.ofText_eq_ok_iff.1 hs
    obtain ⟨es, hwritten', hes⟩ := h.ofText_eq_ok_iff.1 ht
    exact ⟨ds, es, spells_of_digits hwritten hds, spells_of_digits hwritten' hes,
      hds.trans hes.symm⟩
  · rintro ⟨ds, es, hs, ht, heq⟩
    obtain ⟨u, hu⟩ := hs.exists_uuid
    rw [← h.uuid_wrap u] at hu
    exact ⟨wrap u, h.ofText_eq_ok_iff.2 ⟨ds, hs.form, hu⟩,
      h.ofText_eq_ok_iff.2 ⟨es, ht.form, heq.symm.trans hu⟩⟩

theorem corresponds (h : Wraps kind wrap uuid ofText toText) :
    Corresponds kind (fun id => (uuid id).value) ofText toText where
  every n := by
    constructor
    · rintro ⟨id, rfl⟩
      exact (uuid id).lt_size
    · intro hn
      exact ⟨wrap ⟨n, hn⟩, by rw [h.uuid_wrap]⟩
  shown := h.shown
  back id := by
    rw [h.toText_eq, h.ofText_eq, Uuid.ofText_toText]
    exact congrArg Except.ok (h.wrap_uuid id)
  read _ ds _ hdigits hwritten := h.ofText_eq_ok_iff.2 ⟨ds, hwritten, hdigits⟩
  only s id hread := by
    obtain ⟨ds, hwritten, hdigits⟩ := h.ofText_eq_ok_iff.1 hread
    have hspells := spells_of_digits hwritten hdigits
    refine ⟨ds, hspells, fun es hes => hes.unique hspells, ?_⟩
    rw [hdigits]
    exact h.shown id
  alike := h.alike
  refused _ := h.refused
  ordered a b := by rw [h.le_iff, h.toText_eq, h.toText_eq, toText_le_iff]

end Wraps

theorem OrganizationId.wraps : Wraps "OrganizationId" mk uuid ofText toText :=
  ⟨fun _ => rfl, fun _ => rfl, fun _ => rfl, fun _ => rfl, fun _ _ => Iff.rfl⟩

theorem UserId.wraps : Wraps "UserId" mk uuid ofText toText :=
  ⟨fun _ => rfl, fun _ => rfl, fun _ => rfl, fun _ => rfl, fun _ _ => Iff.rfl⟩

theorem SessionId.wraps : Wraps "SessionId" mk uuid ofText toText :=
  ⟨fun _ => rfl, fun _ => rfl, fun _ => rfl, fun _ => rfl, fun _ _ => Iff.rfl⟩

/-- Ids of every kind and their texts correspond one to one. -/
theorem ids_and_texts_correspond :
    Corresponds "OrganizationId" (fun id => id.uuid.value) OrganizationId.ofText
        OrganizationId.toText
      ∧ Corresponds "UserId" (fun id => id.uuid.value) UserId.ofText UserId.toText
      ∧ Corresponds "SessionId" (fun id => id.uuid.value) SessionId.ofText SessionId.toText :=
  ⟨OrganizationId.wraps.corresponds, UserId.wraps.corresponds, SessionId.wraps.corresponds⟩

/-- The digits of an id are read in capitals behind a name space in capitals. -/
theorem capitals_behind_a_name_space_are_read :
    Written "0190A0B0C0D07E0F8123456789ABCDEF".toList
        "URN:Uuid:0190A0B0-C0D0-7E0F-8123-456789ABCDEF".toList
      ∧ UserId.ofText "URN:Uuid:0190A0B0-C0D0-7E0F-8123-456789ABCDEF"
        = .ok ⟨.ofNat 0x0190a0b0c0d07e0f8123456789abcdef⟩ := by
  have hgroups : Hyphenated "0190A0B0C0D07E0F8123456789ABCDEF".toList
      "0190A0B0-C0D0-7E0F-8123-456789ABCDEF".toList :=
    ⟨["0190A0B0".toList, "C0D0".toList, "7E0F".toList, "8123".toList, "456789ABCDEF".toList],
      by decide, by decide, by decide⟩
  have hspace : "URN:Uuid:".toList.map Char.toLower = "urn:uuid:".toList := by decide
  have hwritten := Written.named hspace hgroups
  exact ⟨hwritten, ids_and_texts_correspond.2.1.read _ _ _ (by decide +kernel) hwritten⟩

end TenantAuth
