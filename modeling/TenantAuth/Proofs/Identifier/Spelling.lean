-- Which texts are read as an id: those of thirty-two hexadecimal digits, in either case, in one of
-- four forms. No two of the forms are equally long, so a text has one of them at most.

import Mathlib.Data.List.Induction
import TenantAuth.Proofs.Identifier
import TenantAuth.Proofs.Text.Hexadecimal

namespace TenantAuth.Uuid

open TenantAuth.Text

variable {cs ds es inner : List Char} {u : Uuid} {k n : Nat}

/-! ## Numbers and digits -/

theorem isSome_readHex_iff (acc : Nat) :
    (readHex acc cs).isSome = true ↔ ∀ c ∈ cs, IsHexDigit c := by
  induction cs generalizing acc with
  | nil => simp [readHex]
  | cons c cs ih =>
    rw [readHex, List.forall_mem_cons, ← isSome_hexValue?_iff]
    cases hexValue? c with
    | none => simp
    | some d => simp [ih]

theorem readHex_map_toLower (acc : Nat) (cs : List Char) :
    readHex acc (cs.map Char.toLower) = readHex acc cs := by
  induction cs generalizing acc with
  | nil => rfl
  | cons c cs ih =>
    rw [List.map_cons, readHex, readHex, hexValue?_toLower]
    simp only [ih]

/-- The digits that are read are those of the number that is read. The induction goes from the
last digit on, as digits are written. -/
theorem hexDigits_of_readHex (h : readHex 0 cs = some n) :
    hexDigits cs.length n = cs.map Char.toLower ∧ n < 16 ^ cs.length := by
  induction cs using List.reverseRecOn generalizing n with
  | nil =>
    obtain rfl := Option.some.inj h
    exact ⟨rfl, Nat.one_pos⟩
  | append_singleton cs c ih =>
    rw [readHex_append, Option.bind_eq_some_iff] at h
    obtain ⟨m, hm, h⟩ := h
    rw [readHex, Option.bind_eq_some_iff] at h
    obtain ⟨d, hd, h⟩ := h
    obtain rfl := Option.some.inj h
    obtain ⟨hlt, hlower⟩ := hexValue?_eq_some_iff.1 hd
    obtain ⟨hdigits, hm⟩ := ih hm
    have hfront : (16 * m + d) / 16 = m := by omega
    have hlast : (16 * m + d) % 16 = d := by omega
    rw [List.length_append, List.length_singleton, hexDigits, hfront, hlast, hdigits, ← hlower,
      List.map_append, List.map_singleton, Nat.pow_succ]
    exact ⟨rfl, by omega⟩

/-- Digits are read as an id exactly if in lower case they are the digits of that id. -/
theorem ofDigits?_eq_some_iff :
    ofDigits? ds = some u ↔ ds.map Char.toLower = hexDigits 32 u.value := by
  constructor
  · intro h
    unfold ofDigits? at h
    split at h
    · next hlen =>
      obtain ⟨n, hn, rfl⟩ := Option.map_eq_some_iff.1 h
      obtain ⟨hdigits, hlt⟩ := hexDigits_of_readHex hn
      rw [hlen] at hdigits hlt
      have hvalue : (ofNat n).value = n := Nat.mod_eq_of_lt hlt
      rw [hvalue, hdigits]
    · cases h
  · intro h
    have hlen : (ds.map Char.toLower).length = ds.length := List.length_map _
    have hread := ofDigits?_hexDigits u
    rw [← h] at hread
    rwa [ofDigits?, hlen, readHex_map_toLower, ← ofDigits?] at hread

theorem isSome_ofDigits?_iff :
    (ofDigits? ds).isSome = true ↔ ds.length = 32 ∧ ∀ c ∈ ds, IsHexDigit c := by
  unfold ofDigits?
  split
  · next hlen => simp [hlen, isSome_readHex_iff]
  · next hlen => simp [hlen]

/-- The digits of a number, with zeros in front of them up to thirty-two. -/
def digits (n : Nat) : List Char := (Nat.toDigits 16 n).leftpad 32 '0'

theorem hexDigits_eq_leftpad (h : n < 16 ^ (k + 1)) :
    hexDigits (k + 1) n = (Nat.toDigits 16 n).leftpad (k + 1) '0' := by
  induction k generalizing n with
  | zero =>
    have hn : n < 16 := h
    rw [hexDigits, hexDigits, Nat.mod_eq_of_lt hn, Nat.toDigits_of_lt_base hn,
      digitChar_eq_hexDigit n hn]
    rfl
  | succ k ih =>
    have hfront : n / 16 < 16 ^ (k + 1) := by
      rw [Nat.pow_succ] at h
      omega
    have hlast := digitChar_eq_hexDigit (n % 16) (Nat.mod_lt n (by decide))
    rw [hexDigits, ih hfront, ← hlast]
    by_cases hn : n < 16
    · rw [Nat.div_eq_of_lt hn, Nat.mod_eq_of_lt hn, Nat.toDigits_zero, Nat.toDigits_of_lt_base hn]
      simp [List.leftpad, List.replicate_succ']
    · rw [Nat.toDigits_of_base_le (by decide) (Nat.not_lt.1 hn)]
      simp [List.leftpad]

theorem hexDigits_eq_digits (u : Uuid) : hexDigits 32 u.value = digits u.value :=
  hexDigits_eq_leftpad (by have h := u.lt_size; omega)

/-! ## Forms -/

/-- Digits in groups of eight, four, four, four and twelve, with hyphens between the groups. -/
def Hyphenated (ds cs : List Char) : Prop :=
  ∃ groups : List (List Char), groups.map List.length = [8, 4, 4, 4, 12] ∧ groups.flatten = ds
    ∧ cs = ['-'].intercalate groups

/-- The four forms in which digits make the text of an id. -/
inductive Written (ds : List Char) : List Char → Prop
  | bare : Written ds ds
  | hyphenated {cs : List Char} (h : Hyphenated ds cs) : Written ds cs
  | braced {cs : List Char} (h : Hyphenated ds cs) : Written ds ('\x7b' :: cs ++ ['\x7d'])
  | named {space cs : List Char} (hspace : space.map Char.toLower = "urn:uuid:".toList)
      (h : Hyphenated ds cs) : Written ds (space ++ cs)

/-- A text of thirty-two hexadecimal digits in one of the four forms. -/
structure Spells (s : String) (ds : List Char) : Prop where
  count : ds.length = 32
  hex : ∀ c ∈ ds, IsHexDigit c
  form : Written ds s.toList

theorem hyphenated_iff : Hyphenated ds cs ↔ ∃ a b c d e : List Char, a.length = 8 ∧ b.length = 4 ∧
    c.length = 4 ∧ d.length = 4 ∧ e.length = 12 ∧ ds = a ++ b ++ c ++ d ++ e ∧
    cs = a ++ '-' :: b ++ '-' :: c ++ '-' :: d ++ '-' :: e := by
  constructor
  · rintro ⟨groups, hlengths, rfl, rfl⟩
    simp only [List.map_eq_cons_iff, List.map_eq_nil_iff] at hlengths
    obtain ⟨a, _, rfl, ha, b, _, rfl, hb, c, _, rfl, hc, d, _, rfl, hd, e, _, rfl, he, rfl⟩ :=
      hlengths
    exact ⟨a, b, c, d, e, ha, hb, hc, hd, he, by simp, by simp [List.intercalate]⟩
  · rintro ⟨a, b, c, d, e, ha, hb, hc, hd, he, rfl, rfl⟩
    exact ⟨[a, b, c, d, e], by simp [ha, hb, hc, hd, he], by simp, by simp [List.intercalate]⟩

theorem Hyphenated.length_eq (h : Hyphenated ds cs) : cs.length = 36 := by
  obtain ⟨a, b, c, d, e, ha, hb, hc, hd, he, rfl, rfl⟩ := hyphenated_iff.1 h
  simp [ha, hb, hc, hd, he]

/-- The digits between the hyphens. -/
theorem Hyphenated.eq_groups (h : Hyphenated ds cs) : ds = cs.take 8 ++ (cs.drop 9).take 4
    ++ (cs.drop 14).take 4 ++ (cs.drop 19).take 4 ++ cs.drop 24 := by
  obtain ⟨a, b, c, d, e, ha, hb, hc, hd, he, rfl, rfl⟩ := hyphenated_iff.1 h
  simp [List.drop_append, List.drop_eq_nil_of_le, ha, hb, hc, hd]

theorem Hyphenated.unique (h : Hyphenated ds cs) (h' : Hyphenated es cs) : ds = es :=
  h.eq_groups.trans h'.eq_groups.symm

theorem length_of_space {space : List Char}
    (h : space.map Char.toLower = "urn:uuid:".toList) : space.length = 9 := by
  rw [← List.length_map Char.toLower, h]
  rfl

/-- The length of a text tells its form, and so where its digits are. -/
theorem Written.by_length (h : Written ds cs) (hcount : ds.length = 32) :
    cs.length = 32 ∧ ds = cs ∨ cs.length = 36 ∧ Hyphenated ds cs ∨
      cs.length = 38 ∧ Hyphenated ds (cs.drop 1).dropLast ∨
      cs.length = 45 ∧ Hyphenated ds (cs.drop 9) := by
  cases h with
  | bare => exact Or.inl ⟨hcount, rfl⟩
  | hyphenated h => exact Or.inr (Or.inl ⟨h.length_eq, h⟩)
  | @braced cs h =>
    refine Or.inr (Or.inr (Or.inl ⟨by simp [h.length_eq], ?_⟩))
    rwa [List.cons_append, List.drop_one, List.tail_cons, List.dropLast_concat]
  | @named space cs hspace h =>
    have hlen := length_of_space hspace
    refine Or.inr (Or.inr (Or.inr ⟨by rw [List.length_append, hlen, h.length_eq], ?_⟩))
    rwa [List.drop_left' hlen]

/-- A text spells one row of digits. -/
theorem Spells.unique {s : String} (h : Spells s ds) (h' : Spells s es) : ds = es := by
  rcases h.form.by_length h.count with ⟨hlen, hform⟩ | ⟨hlen, hform⟩ | ⟨hlen, hform⟩ | ⟨hlen, hform⟩
  all_goals
    rcases h'.form.by_length h'.count with
      ⟨hlen', hform'⟩ | ⟨hlen', hform'⟩ | ⟨hlen', hform'⟩ | ⟨hlen', hform'⟩
  -- Texts of two forms differ in length.
  all_goals first
    | omega
    | exact hform.trans hform'.symm
    | exact hform.unique hform'

theorem hyphenated_chars (u : Uuid) : Hyphenated (hexDigits 32 u.value) u.chars := by
  have hlen := length_hexDigits 32 u.value
  unfold chars
  generalize hexDigits 32 u.value = ds at hlen
  exact hyphenated_iff.2 ⟨ds.take 8, (ds.drop 8).take 4, (ds.drop 12).take 4, (ds.drop 16).take 4,
    ds.drop 20, by simp [hlen], by simp [hlen], by simp [hlen], by simp [hlen], by simp [hlen],
    (append_groups ds).symm, rfl⟩

/-- A group that ends with a certain character, and what is behind that. -/
theorem drop_eq_of_getElem? {i : Nat} {c : Char} (h : cs[i + k]? = some c) :
    cs.drop i = (cs.drop i).take k ++ c :: cs.drop (i + k + 1) := by
  obtain ⟨hlt, rfl⟩ := List.getElem?_eq_some_iff.1 h
  rw [← List.drop_eq_getElem_cons hlt, ← List.drop_drop, List.take_append_drop]

theorem ofGroups?_eq_some_iff :
    ofGroups? cs = some u ↔ ∃ ds, Hyphenated ds cs ∧ ofDigits? ds = some u := by
  constructor
  · intro h
    unfold ofGroups? at h
    simp only [beq_iff_eq] at h
    split at h
    · next hshape =>
      obtain ⟨hlen, h8, h13, h18, h23⟩ := hshape
      -- Each hyphen ends a group; the last group ends with the text.
      have hfirst : cs = cs.take 8 ++ '-' :: cs.drop 9 := drop_eq_of_getElem? (i := 0) (k := 8) h8
      have hsecond := drop_eq_of_getElem? (i := 9) (k := 4) h13
      have hthird := drop_eq_of_getElem? (i := 14) (k := 4) h18
      have hfourth := drop_eq_of_getElem? (i := 19) (k := 4) h23
      refine ⟨_, hyphenated_iff.2 ⟨cs.take 8, (cs.drop 9).take 4, (cs.drop 14).take 4,
        (cs.drop 19).take 4, cs.drop 24, by simp [hlen], by simp [hlen], by simp [hlen],
        by simp [hlen], by simp [hlen], rfl, ?_⟩, h⟩
      simp only [List.append_assoc, List.cons_append]
      rw [← hfourth, ← hthird, ← hsecond, ← hfirst]
    · cases h
  · rintro ⟨ds, hgroups, hdigits⟩
    obtain ⟨a, b, c, d, e, ha, hb, hc, hd, he, rfl, rfl⟩ := hyphenated_iff.1 hgroups
    rw [ofGroups?_groups ha hb hc hd he, hdigits]

/-! ## Readers -/

theorem inBraces?_eq_some_iff : inBraces? cs = some inner ↔ cs = '\x7b' :: inner ++ ['\x7d'] := by
  unfold inBraces?
  cases cs with
  | nil => simp
  | cons c rest =>
    rcases List.eq_nil_or_concat rest with rfl | ⟨front, last, rfl⟩
    · simp
    · have hlast : (c :: (front ++ [last])).getLast? = some last := by
        rw [← List.cons_append, List.getLast?_concat]
      simp [hlast, and_comm, and_left_comm]

theorem afterUrn?_eq_some_iff :
    afterUrn? cs = some inner ↔
      ∃ space, space.map Char.toLower = "urn:uuid:".toList ∧ cs = space ++ inner := by
  have hurn : urn = "urn:uuid:".toList := by decide
  unfold afterUrn?
  rw [hurn]
  constructor
  · intro h
    split at h
    · next hspace =>
      rw [← Option.some.inj h]
      exact ⟨_, hspace, (List.take_append_drop _ cs).symm⟩
    · cases h
  · rintro ⟨space, hspace, rfl⟩
    have hlen : "urn:uuid:".toList.length = space.length := by rw [← hspace, List.length_map]
    rw [hlen, List.take_left, List.drop_left, if_pos hspace]

theorem length_of_ofDigits? (h : ofDigits? cs = some u) : cs.length = 32 :=
  (isSome_ofDigits?_iff.1 (Option.isSome_of_eq_some h)).1

theorem length_of_ofGroups? (h : ofGroups? cs = some u) : cs.length = 36 := by
  obtain ⟨ds, hgroups, -⟩ := ofGroups?_eq_some_iff.1 h
  exact hgroups.length_eq

theorem length_of_inBraces? (h : (inBraces? cs).bind ofGroups? = some u) : cs.length = 38 := by
  obtain ⟨inner, hinner, hread⟩ := Option.bind_eq_some_iff.1 h
  rw [inBraces?_eq_some_iff.1 hinner]
  simp [length_of_ofGroups? hread]

theorem length_of_afterUrn? (h : (afterUrn? cs).bind ofGroups? = some u) : cs.length = 45 := by
  obtain ⟨inner, hinner, hread⟩ := Option.bind_eq_some_iff.1 h
  obtain ⟨space, hspace, rfl⟩ := afterUrn?_eq_some_iff.1 hinner
  rw [List.length_append, length_of_space hspace, length_of_ofGroups? hread]

/-- No two of the forms are equally long, so it does not matter which of them is tried first. -/
theorem ofChars?_eq_some_iff_or :
    ofChars? cs = some u ↔ ofDigits? cs = some u ∨ ofGroups? cs = some u ∨
      (inBraces? cs).bind ofGroups? = some u ∨ (afterUrn? cs).bind ofGroups? = some u := by
  constructor
  · intro h
    unfold ofChars? at h
    split at h
    · next v hv => exact Or.inl (hv.trans h)
    split at h
    · next v hv => exact Or.inr (Or.inl (hv.trans h))
    split at h
    · next v hv => exact Or.inr (Or.inr (Or.inl (hv.trans h)))
    · exact Or.inr (Or.inr (Or.inr h))
  · have hbare : cs.length ≠ 32 → ofDigits? cs = none := fun hne =>
      Option.eq_none_iff_forall_ne_some.2 fun _ hv => hne (length_of_ofDigits? hv)
    have hgroups : cs.length ≠ 36 → ofGroups? cs = none := fun hne =>
      Option.eq_none_iff_forall_ne_some.2 fun _ hv => hne (length_of_ofGroups? hv)
    have hbraces : cs.length ≠ 38 → (inBraces? cs).bind ofGroups? = none := fun hne =>
      Option.eq_none_iff_forall_ne_some.2 fun _ hv => hne (length_of_inBraces? hv)
    unfold ofChars?
    rintro (h | h | h | h)
    · rw [h]
    · have hlen := length_of_ofGroups? h
      rw [hbare (by omega), h]
    · have hlen := length_of_inBraces? h
      rw [hbare (by omega), hgroups (by omega), h]
    · have hlen := length_of_afterUrn? h
      rw [hbare (by omega), hgroups (by omega), hbraces (by omega), h]

/-- What is read is written in one of the forms with digits that are read. -/
theorem ofChars?_eq_some_iff :
    ofChars? cs = some u ↔ ∃ ds, Written ds cs ∧ ofDigits? ds = some u := by
  rw [ofChars?_eq_some_iff_or]
  constructor
  · rintro (h | h | h | h)
    · exact ⟨cs, .bare, h⟩
    · obtain ⟨ds, hgroups, hdigits⟩ := ofGroups?_eq_some_iff.1 h
      exact ⟨ds, .hyphenated hgroups, hdigits⟩
    · obtain ⟨inner, hinner, hread⟩ := Option.bind_eq_some_iff.1 h
      obtain ⟨ds, hgroups, hdigits⟩ := ofGroups?_eq_some_iff.1 hread
      rw [inBraces?_eq_some_iff.1 hinner]
      exact ⟨ds, .braced hgroups, hdigits⟩
    · obtain ⟨inner, hinner, hread⟩ := Option.bind_eq_some_iff.1 h
      obtain ⟨ds, hgroups, hdigits⟩ := ofGroups?_eq_some_iff.1 hread
      obtain ⟨space, hspace, rfl⟩ := afterUrn?_eq_some_iff.1 hinner
      exact ⟨ds, .named hspace hgroups, hdigits⟩
  · rintro ⟨ds, hwritten, h⟩
    cases hwritten with
    | bare => exact Or.inl h
    | hyphenated hgroups =>
      exact Or.inr (Or.inl (ofGroups?_eq_some_iff.2 ⟨ds, hgroups, h⟩))
    | braced hgroups =>
      rw [inBraces?_eq_some_iff.2 rfl, Option.bind_some]
      exact Or.inr (Or.inr (Or.inl (ofGroups?_eq_some_iff.2 ⟨ds, hgroups, h⟩)))
    | named hspace hgroups =>
      rw [afterUrn?_eq_some_iff.2 ⟨_, hspace, rfl⟩, Option.bind_some]
      exact Or.inr (Or.inr (Or.inr (ofGroups?_eq_some_iff.2 ⟨ds, hgroups, h⟩)))

/-! ## Texts -/

variable {s : String}

theorem ofText_eq_ok_iff : ofText s = .ok u ↔
    ∃ ds, Written ds s.toList ∧ ds.map Char.toLower = digits u.value := by
  simp only [← hexDigits_eq_digits, ← ofDigits?_eq_some_iff, ← ofChars?_eq_some_iff]
  unfold ofText
  cases ofChars? s.toList <;> simp

theorem spells_of_digits (h : Written ds s.toList)
    (hdigits : ds.map Char.toLower = digits u.value) : Spells s ds := by
  rw [← hexDigits_eq_digits, ← ofDigits?_eq_some_iff] at hdigits
  obtain ⟨hcount, hhex⟩ := isSome_ofDigits?_iff.1 (Option.isSome_of_eq_some hdigits)
  exact ⟨hcount, hhex, h⟩

/-- Whatever digits a text spells, there is an id that has them. -/
theorem Spells.exists_uuid (h : Spells s ds) :
    ∃ u : Uuid, ds.map Char.toLower = digits u.value := by
  obtain ⟨u, hu⟩ := Option.isSome_iff_exists.1 (isSome_ofDigits?_iff.2 ⟨h.count, h.hex⟩)
  rw [ofDigits?_eq_some_iff, hexDigits_eq_digits] at hu
  exact ⟨u, hu⟩

-- Braces and name spaces are for groups only.
example : ofText? "\x7b0190a0b0c0d07e0f8123456789abcdef\x7d" = none := by decide +kernel

end TenantAuth.Uuid
