-- Identifiers and roles come back from their texts.

import Mathlib.Algebra.Order.Ring.Nat
import TenantAuth.Identifier
import TenantAuth.Permission

namespace TenantAuth

open TenantAuth.Text

namespace Uuid

/-! ## Digits -/

@[simp] theorem length_hexDigits (k n : Nat) : (hexDigits k n).length = k := by
  induction k generalizing n with
  | zero => rfl
  | succ k ih => rw [hexDigits, List.length_append, ih, List.length_singleton]

theorem readHex_append (acc : Nat) (cs ds : List Char) :
    readHex acc (cs ++ ds) = (readHex acc cs).bind fun n => readHex n ds := by
  induction cs generalizing acc with
  | nil => rfl
  | cons c cs ih =>
    rw [List.cons_append, readHex, readHex, Option.bind_assoc]
    congr 1
    funext d
    exact ih _

/-- Digits that are read behind others push those up. -/
theorem readHex_hexDigits (k n acc : Nat) :
    readHex acc (hexDigits k n) = some (16 ^ k * acc + n % 16 ^ k) := by
  induction k generalizing n with
  | zero => simp [hexDigits, readHex, Nat.mod_one]
  | succ k ih =>
    have hd := hexValue?_hexDigit (n % 16) (Nat.mod_lt _ (by decide))
    have hmod : n % 16 ^ (k + 1) = n % 16 + 16 * (n / 16 % 16 ^ k) := by
      rw [Nat.pow_succ', Nat.mod_mul]
    rw [hexDigits, readHex_append, ih, Option.bind_some, readHex, hd, Option.bind_some, readHex,
      hmod, Nat.pow_succ', Nat.mul_assoc]
    congr 1
    omega

theorem ofDigits?_hexDigits (u : Uuid) : ofDigits? (hexDigits 32 u.value) = some u := by
  have hlt := u.lt_size
  have hread : readHex 0 (hexDigits 32 u.value) = some u.value := by
    rw [readHex_hexDigits, Nat.mul_zero, Nat.zero_add, Nat.mod_eq_of_lt (by omega)]
  rw [ofDigits?, if_pos (length_hexDigits 32 _), hread, Option.map_some]
  simp only [ofNat, Nat.mod_eq_of_lt hlt]

/-! ## Groups -/

/-- Groups between hyphens are read like the digits that stand in them. -/
theorem ofGroups?_groups {a b c d e : List Char} (ha : a.length = 8) (hb : b.length = 4)
    (hc : c.length = 4) (hd : d.length = 4) (he : e.length = 12) :
    ofGroups? (a ++ '-' :: b ++ '-' :: c ++ '-' :: d ++ '-' :: e)
      = ofDigits? (a ++ b ++ c ++ d ++ e) := by
  simp only [ofGroups?, List.append_assoc, List.cons_append]
  rw [if_pos]
  · simp [List.drop_append, List.drop_eq_nil_of_le, ha, hb, hc, hd]
  · simp [ha, hb, hc, hd, he]

/-- Put together again, the groups are all digits. -/
theorem append_groups (ds : List Char) : ds.take 8 ++ (ds.drop 8).take 4 ++ (ds.drop 12).take 4
    ++ (ds.drop 16).take 4 ++ ds.drop 20 = ds := by
  rw [← List.take_add, ← List.take_add, ← List.take_add, List.take_append_drop]

theorem ofGroups?_chars (u : Uuid) : ofGroups? u.chars = some u := by
  have hlen := length_hexDigits 32 u.value
  rw [← ofDigits?_hexDigits u, chars]
  generalize hexDigits 32 u.value = ds at hlen
  rw [ofGroups?_groups (by simp [hlen]) (by simp [hlen]) (by simp [hlen]) (by simp [hlen])
    (by simp [hlen]), append_groups]

theorem length_chars (u : Uuid) : u.chars.length = 36 := by
  simp [chars]

/-- What ids are written with. -/
def letters : List Char :=
  ['0', '1', '2', '3', '4', '5', '6', '7', '8', '9', 'a', 'b', 'c', 'd', 'e', 'f', '-']

theorem hexDigits_subset (k n : Nat) : hexDigits k n ⊆ letters := by
  have hdigit : ∀ d < 16, hexDigit d ∈ letters := by decide
  induction k generalizing n with
  | zero => exact List.nil_subset letters
  | succ k ih =>
    have hlast := hdigit (n % 16) (Nat.mod_lt n (by decide))
    exact List.append_subset.mpr ⟨ih (n / 16), List.cons_subset.mpr ⟨hlast, List.nil_subset _⟩⟩

theorem chars_subset (u : Uuid) : u.chars ⊆ letters := by
  have hdigits := hexDigits_subset 32 u.value
  have hhyphen : '-' ∈ letters := by decide
  have hgroup : ∀ i k : Nat, ((hexDigits 32 u.value).drop i).take k ⊆ letters :=
    fun i k => List.Subset.trans (List.take_subset k _)
      (List.Subset.trans (List.drop_subset i _) hdigits)
  simp only [chars, List.append_subset, List.cons_subset]
  exact ⟨⟨⟨⟨List.Subset.trans (List.take_subset 8 _) hdigits, hhyphen, hgroup 8 4⟩,
    hhyphen, hgroup 12 4⟩, hhyphen, hgroup 16 4⟩,
    hhyphen, List.Subset.trans (List.drop_subset 20 _) hdigits⟩

/-- The canonical text of an id is read as that id. -/
theorem ofText?_toText (u : Uuid) : ofText? u.toText = some u := by
  have hbare : ofDigits? u.chars = none := by
    rw [ofDigits?, if_neg (by simp [length_chars])]
  rw [ofText?, toText, String.toList_ofList, ofChars?, hbare, ofGroups?_chars]

theorem ofText_toText (u : Uuid) : ofText u.toText = .ok u := by
  have h := ofText?_toText u
  rw [ofText?] at h
  rw [ofText, h]

end Uuid

theorem UserId.ofText?_toText (id : UserId) : UserId.ofText? id.toText = some id := by
  rw [UserId.ofText?, UserId.ofText, UserId.toText, Uuid.ofText_toText]
  rfl

theorem OrganizationId.ofText?_toText (id : OrganizationId) :
    OrganizationId.ofText? id.toText = some id := by
  rw [OrganizationId.ofText?, OrganizationId.ofText, OrganizationId.toText, Uuid.ofText_toText]
  rfl

theorem Role.ofName?_name (r : Role) : Role.ofName? r.name = some r := by
  cases r <;> decide

theorem Role.ofName?_eq_some_iff {name : String} {r : Role} :
    Role.ofName? name = some r ↔ name = r.name := by
  constructor
  · intro h
    have hname := List.find?_some h
    exact (of_decide_eq_true hname).symm
  · rintro rfl
    exact Role.ofName?_name r

theorem Role.ofName_eq_ok_iff {name : String} {r : Role} :
    Role.ofName name = .ok r ↔ name = r.name := by
  rw [← Role.ofName?_eq_some_iff]
  unfold Role.ofName
  split <;> simp_all

theorem Role.name_of_ofName {name : String} {r : Role} (h : Role.ofName name = .ok r) :
    r.name = name :=
  (Role.ofName_eq_ok_iff.1 h).symm

end TenantAuth
