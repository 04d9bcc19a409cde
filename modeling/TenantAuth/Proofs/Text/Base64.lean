-- Base64 as a correspondence, with padding and without: every row of octets has one
-- spelling, and every text that can be read is the spelling of what is read.

import TenantAuth.Text.Base64

namespace TenantAuth.Text.Base64.Alphabet

/-! ## Digits -/

/-- An alphabet in which the digits can be told apart. -/
def Distinct (a : Alphabet) : Prop := ∀ n < 64, a.value? (a.digit n) = some n

theorem distinct_urlSafe : urlSafe.Distinct := by unfold Distinct; decide

theorem distinct_standard : standard.Distinct := by unfold Distinct; decide

/-- A digit is below sixty-four, and it is the digit of its value. -/
theorem digit_of_value? {a : Alphabet} {c : Char} {n : Nat} (h : a.value? c = some n) :
    n < 64 ∧ a.digit n = c := by
  simp only [value?] at h
  split at h
  · next hc =>
    obtain rfl := Option.some.inj h
    refine ⟨by omega, ?_⟩
    rw [digit, if_pos (by omega), show 65 + (c.toNat - 65) = c.toNat by omega, Char.ofNat_toNat]
  split at h
  · next hc =>
    obtain rfl := Option.some.inj h
    refine ⟨by omega, ?_⟩
    rw [digit, if_neg (by omega), if_pos (by omega),
      show 71 + (c.toNat - 71) = c.toNat by omega, Char.ofNat_toNat]
  split at h
  · next hc =>
    obtain rfl := Option.some.inj h
    refine ⟨by omega, ?_⟩
    rw [digit, if_neg (by omega), if_neg (by omega), if_pos (by omega),
      show c.toNat + 4 - 4 = c.toNat by omega, Char.ofNat_toNat]
  split at h
  · next hc =>
    obtain rfl := Option.some.inj h
    exact ⟨by decide, hc.symm⟩
  split at h
  · next hc =>
    obtain rfl := Option.some.inj h
    exact ⟨by decide, hc.symm⟩
  · simp at h

/-! ## Octets in three groups of bits -/

theorem join_first (x y : UInt8) :
    UInt8.ofNat (x.toNat / 4 * 4 + (x.toNat % 4 * 16 + y.toNat / 16) / 16) = x := by
  have := y.toNat_lt
  rw [show x.toNat / 4 * 4 + (x.toNat % 4 * 16 + y.toNat / 16) / 16 = x.toNat by omega,
    UInt8.ofNat_toNat]

theorem join_second (x y z : UInt8) :
    UInt8.ofNat ((x.toNat % 4 * 16 + y.toNat / 16) % 16 * 16
      + (y.toNat % 16 * 4 + z.toNat / 64) / 4) = y := by
  have := y.toNat_lt
  have := z.toNat_lt
  rw [show (x.toNat % 4 * 16 + y.toNat / 16) % 16 * 16 + (y.toNat % 16 * 4 + z.toNat / 64) / 4
    = y.toNat by omega, UInt8.ofNat_toNat]

theorem join_third (y z : UInt8) :
    UInt8.ofNat ((y.toNat % 16 * 4 + z.toNat / 64) % 4 * 64 + z.toNat % 64) = z := by
  have := z.toNat_lt
  rw [show (y.toNat % 16 * 4 + z.toNat / 64) % 4 * 64 + z.toNat % 64 = z.toNat by omega,
    UInt8.ofNat_toNat]

theorem toNat_first {p q : Nat} (hp : p < 64) (hq : q < 64) :
    (UInt8.ofNat (p * 4 + q / 16)).toNat = p * 4 + q / 16 :=
  UInt8.toNat_ofNat_of_lt' (show _ < 256 by omega)

theorem toNat_second {q r : Nat} (hr : r < 64) :
    (UInt8.ofNat (q % 16 * 16 + r / 4)).toNat = q % 16 * 16 + r / 4 :=
  UInt8.toNat_ofNat_of_lt' (show _ < 256 by omega)

theorem toNat_third {r s : Nat} (hs : s < 64) :
    (UInt8.ofNat (r % 4 * 64 + s)).toNat = r % 4 * 64 + s :=
  UInt8.toNat_ofNat_of_lt' (show _ < 256 by omega)

/-! ## Both directions -/

theorem decode?_encode {a : Alphabet} (ha : a.Distinct) (bs : List UInt8) :
    a.decode? (a.encode [] bs) = some bs := by
  fun_induction a.encode [] bs with
  | case1 => rfl
  | case2 x =>
    have hx := x.toNat_lt
    simp only [List.append_nil, decode?, ha _ (show x.toNat / 4 < 64 by omega),
      ha _ (show x.toNat % 4 * 16 < 64 by omega), Option.bind_eq_bind, Option.bind_some]
    rw [if_pos (by omega)]
    simpa using join_first x 0
  | case3 x y =>
    have hx := x.toNat_lt
    have hy := y.toNat_lt
    simp only [List.append_nil, decode?, ha _ (show x.toNat / 4 < 64 by omega),
      ha _ (show x.toNat % 4 * 16 + y.toNat / 16 < 64 by omega),
      ha _ (show y.toNat % 16 * 4 < 64 by omega), Option.bind_eq_bind, Option.bind_some]
    rw [if_pos (by omega), join_first x y]
    simpa using join_second x y 0
  | case4 x y z rest ih =>
    have hx := x.toNat_lt
    have hy := y.toNat_lt
    have hz := z.toNat_lt
    simp only [decode?, ha _ (show x.toNat / 4 < 64 by omega),
      ha _ (show x.toNat % 4 * 16 + y.toNat / 16 < 64 by omega),
      ha _ (show y.toNat % 16 * 4 + z.toNat / 64 < 64 by omega),
      ha _ (show z.toNat % 64 < 64 by omega), ih, Option.bind_eq_bind, Option.bind_some]
    rw [join_first x y, join_second x y z, join_third y z]

theorem encode_of_decode? {a : Alphabet} {cs : List Char} {bs : List UInt8}
    (h : a.decode? cs = some bs) : a.encode [] bs = cs := by
  fun_induction a.decode? cs generalizing bs with
  | case1 =>
    obtain rfl := Option.some.inj h
    rfl
  | case2 => simp at h
  | case3 c d =>
    simp only [Option.bind_eq_bind, Option.bind_eq_some_iff] at h
    obtain ⟨p, hp, q, hq, h⟩ := h
    obtain ⟨hp64, hp⟩ := digit_of_value? hp
    obtain ⟨hq64, hq⟩ := digit_of_value? hq
    split at h
    · next hspare =>
      obtain rfl := Option.some.inj h
      simp only [encode, toNat_first hp64 hq64, List.append_nil]
      rw [show (p * 4 + q / 16) / 4 = p by omega, show (p * 4 + q / 16) % 4 * 16 = q by omega,
        hp, hq]
    · simp at h
  | case4 c d e =>
    simp only [Option.bind_eq_bind, Option.bind_eq_some_iff] at h
    obtain ⟨p, hp, q, hq, r, hr, h⟩ := h
    obtain ⟨hp64, hp⟩ := digit_of_value? hp
    obtain ⟨hq64, hq⟩ := digit_of_value? hq
    obtain ⟨hr64, hr⟩ := digit_of_value? hr
    split at h
    · next hspare =>
      obtain rfl := Option.some.inj h
      simp only [encode, toNat_first hp64 hq64, toNat_second hr64, List.append_nil]
      rw [show (p * 4 + q / 16) / 4 = p by omega,
        show (p * 4 + q / 16) % 4 * 16 + (q % 16 * 16 + r / 4) / 16 = q by omega,
        show (q % 16 * 16 + r / 4) % 16 * 4 = r by omega, hp, hq, hr]
    · simp at h
  | case5 c d e f rest ih =>
    simp only [Option.bind_eq_bind, Option.bind_eq_some_iff] at h
    obtain ⟨p, hp, q, hq, r, hr, s, hs, tail, htail, h⟩ := h
    obtain ⟨hp64, hp⟩ := digit_of_value? hp
    obtain ⟨hq64, hq⟩ := digit_of_value? hq
    obtain ⟨hr64, hr⟩ := digit_of_value? hr
    obtain ⟨hs64, hs⟩ := digit_of_value? hs
    obtain rfl := Option.some.inj h
    simp only [encode, toNat_first hp64 hq64, toNat_second hr64, toNat_third hs64, ih htail]
    rw [show (p * 4 + q / 16) / 4 = p by omega,
      show (p * 4 + q / 16) % 4 * 16 + (q % 16 * 16 + r / 4) / 16 = q by omega,
      show (q % 16 * 16 + r / 4) % 16 * 4 + (r % 4 * 64 + s) / 64 = r by omega,
      show (r % 4 * 64 + s) % 64 = s by omega, hp, hq, hr, hs]

/-- Reading and writing are inverse to each other. -/
theorem decode?_eq_some_iff {a : Alphabet} (ha : a.Distinct) {cs : List Char} {bs : List UInt8} :
    a.decode? cs = some bs ↔ cs = a.encode [] bs := by
  constructor
  · intro h
    exact (encode_of_decode? h).symm
  · rintro rfl
    exact decode?_encode ha bs

/-! ## Characters that stand in no spelling -/

/-- Everything that is written is a digit. -/
theorem mem_encode {a : Alphabet} {bs : List UInt8} {c : Char} (h : c ∈ a.encode [] bs) :
    ∃ n < 64, c = a.digit n := by
  fun_induction a.encode [] bs with
  | case1 => simp at h
  | case2 x =>
    have hx := x.toNat_lt
    simp only [List.append_nil, List.mem_cons, List.not_mem_nil, or_false] at h
    rcases h with rfl | rfl
    · exact ⟨_, by omega, rfl⟩
    · exact ⟨_, by omega, rfl⟩
  | case3 x y =>
    have hx := x.toNat_lt
    have hy := y.toNat_lt
    simp only [List.append_nil, List.mem_cons, List.not_mem_nil, or_false] at h
    rcases h with rfl | rfl | rfl
    · exact ⟨_, by omega, rfl⟩
    · exact ⟨_, by omega, rfl⟩
    · exact ⟨_, by omega, rfl⟩
  | case4 x y z rest ih =>
    have hx := x.toNat_lt
    have hy := y.toNat_lt
    have hz := z.toNat_lt
    simp only [List.mem_cons] at h
    rcases h with rfl | rfl | rfl | rfl | h
    · exact ⟨_, by omega, rfl⟩
    · exact ⟨_, by omega, rfl⟩
    · exact ⟨_, by omega, rfl⟩
    · exact ⟨_, by omega, rfl⟩
    · exact ih h

theorem dot_not_mem_encode (bs : List UInt8) : '.' ∉ urlSafe.encode [] bs := by
  have hdot : ∀ n < 64, '.' ≠ urlSafe.digit n := by decide
  intro h
  obtain ⟨n, hn, heq⟩ := mem_encode h
  exact hdot n hn heq

/-! ## Padding -/

/-- How many digits are left out behind so many. -/
def leftOut (digits : Nat) : Nat := (4 - digits % 4) % 4

theorem encode_padded (a : Alphabet) (c : Char) (bs : List UInt8) :
    a.encode [c] bs = a.encode [] bs ++ List.replicate (leftOut (a.encode [] bs).length) c := by
  fun_induction a.encode [] bs with
  | case1 => rfl
  | case2 x => rfl
  | case3 x y => rfl
  | case4 x y z rest ih =>
    have hfull : ∀ n, leftOut (n + 1 + 1 + 1 + 1) = leftOut n := by
      intro n
      unfold leftOut
      omega
    simp only [encode, ih, List.cons_append, List.length_cons, hfull]

/-- Read digits with padding, of which there must be just as much as digits are left out. -/
def decodePadded? (a : Alphabet) (cs : List Char) : Option (List UInt8) :=
  let digits := cs.takeWhile (· ≠ '=')
  if cs.dropWhile (· ≠ '=') = List.replicate (leftOut digits.length) '=' then a.decode? digits
  else none

/-- With padding too, each row of octets has one spelling. -/
theorem decodePadded?_eq_some_iff {a : Alphabet} (ha : a.Distinct)
    (hdigits : ∀ n < 64, a.digit n ≠ '=') {cs : List Char} {bs : List UInt8} :
    a.decodePadded? cs = some bs ↔ cs = a.encode ['='] bs := by
  rw [encode_padded]
  constructor
  · intro h
    simp only [decodePadded?] at h
    split at h
    · next hpadding =>
      rw [decode?_eq_some_iff ha] at h
      rw [← h, ← hpadding, List.takeWhile_append_dropWhile]
    · cases h
  · rintro rfl
    have hall : ∀ c ∈ a.encode [] bs, decide (c ≠ '=') = true := by
      intro c hc
      obtain ⟨n, hn, rfl⟩ := mem_encode hc
      exact decide_eq_true (hdigits n hn)
    have htake : (List.replicate (leftOut (a.encode [] bs).length) '=').takeWhile
        (fun c => decide (c ≠ '=')) = [] := by
      simp
    have hdrop : (List.replicate (leftOut (a.encode [] bs).length) '=').dropWhile
        (fun c => decide (c ≠ '=')) = List.replicate (leftOut (a.encode [] bs).length) '=' := by
      simp
    simp only [decodePadded?, List.takeWhile_append_of_pos hall, List.dropWhile_append_of_pos hall,
      htake, hdrop, List.append_nil, if_true]
    exact decode?_encode ha bs

end TenantAuth.Text.Base64.Alphabet

namespace TenantAuth.Text.Base64

theorem decodeUrl?_encodeUrl (bs : List UInt8) : decodeUrl? (encodeUrl bs) = some bs := by
  rw [decodeUrl?, encodeUrl, String.toList_ofList]
  exact Alphabet.decode?_encode Alphabet.distinct_urlSafe bs

def decodeStandard? (s : String) : Option (List UInt8) := standard.decodePadded? s.toList

theorem decodeStandard?_encodeStandard (bs : List UInt8) :
    decodeStandard? (encodeStandard bs) = some bs := by
  rw [decodeStandard?, encodeStandard, String.toList_ofList,
    Alphabet.decodePadded?_eq_some_iff Alphabet.distinct_standard (by decide)]

end TenantAuth.Text.Base64
