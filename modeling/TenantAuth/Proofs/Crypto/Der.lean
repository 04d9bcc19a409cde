-- Public keys come back from their DER encoding. The reader is a strict one: lengths stand in the
-- fewest octets, and a number has a zero octet in front only where its top bit would make it
-- negative. So what it reads has just one encoding.

import TenantAuth.Crypto.Der
import TenantAuth.Proofs.Crypto.Rsa

namespace TenantAuth

/-! ## Octets without a zero in front -/

namespace Octets

theorem length_magnitude (n : Nat) : (magnitude n).length = count n := length_ofNat _ _

theorem toNat_magnitude (n : Nat) : toNat (magnitude n) = n := by
  rw [magnitude, toNat_ofNat, Nat.mod_eq_of_lt (lt_pow_count n)]

theorem toNat_cons (b : UInt8) (bs : List UInt8) :
    toNat (b :: bs) = 256 ^ bs.length * b.toNat + toNat bs := by
  have h := toNat_append [b] bs
  simpa [toNat] using h

theorem ofNat_toNat (bs : List UInt8) : ofNat bs.length (toNat bs) = bs := by
  induction bs using List.reverseRecOn with
  | nil => rfl
  | append_singleton bs b ih =>
    have hb := b.toNat_lt
    have hfront : (256 * toNat bs + b.toNat) / 256 = toNat bs := by omega
    have hlast : UInt8.ofNat (256 * toNat bs + b.toNat) = b := by
      apply UInt8.toNat.inj
      simp only [UInt8.toNat_ofNat']
      omega
    rw [List.length_append, List.length_singleton, toNat_append_singleton, ofNat, hfront, ih, hlast]

/-- Octets with no zero in front are as many as their number needs. -/
theorem count_toNat {bs : List UInt8} (h : bs.head? ≠ some 0) : count (toNat bs) = bs.length := by
  cases bs with
  | nil => rfl
  | cons b bs =>
    have hb : 0 < b.toNat := by
      apply Nat.pos_of_ne_zero
      intro hzero
      obtain rfl : b = 0 := UInt8.toNat.inj hzero
      exact h rfl
    have hlow : 256 ^ bs.length ≤ toNat (b :: bs) :=
      calc 256 ^ bs.length ≤ 256 ^ bs.length * b.toNat := Nat.le_mul_of_pos_right _ hb
        _ ≤ 256 ^ bs.length * b.toNat + toNat bs := Nat.le_add_right _ _
        _ = toNat (b :: bs) := (toNat_cons b bs).symm
    have hne : toNat (b :: bs) ≠ 0 := by
      have := Nat.pow_pos (n := bs.length) (show 0 < 256 by decide)
      omega
    have hmost : count (toNat (b :: bs)) - 1 < (b :: bs).length :=
      (Nat.pow_lt_pow_iff_right (by decide)).1 (Nat.lt_of_le_of_lt (pow_count_le hne) (toNat_lt _))
    have hleast : bs.length < count (toNat (b :: bs)) :=
      (Nat.pow_lt_pow_iff_right (by decide)).1 (Nat.lt_of_le_of_lt hlow (lt_pow_count _))
    rw [List.length_cons] at hmost ⊢
    omega

theorem magnitude_toNat {bs : List UInt8} (h : bs.head? ≠ some 0) : magnitude (toNat bs) = bs := by
  rw [magnitude, count_toNat h, ofNat_toNat]

/-- A number is written with no zero in front. -/
theorem head?_magnitude (n : Nat) : (magnitude n).head? ≠ some 0 := by
  intro h
  obtain ⟨bs, hbs⟩ := List.head?_eq_some_iff.1 h
  have hn : toNat bs = n := by
    have := toNat_magnitude n
    rw [hbs, toNat_cons] at this
    simpa using this
  have hcount : count n = bs.length + 1 := by
    rw [← length_magnitude, hbs, List.length_cons]
  have hne : n ≠ 0 := by
    rintro rfl
    cases hcount
  have hlow := pow_count_le hne
  have hhigh := toNat_lt bs
  rw [hcount, Nat.add_sub_cancel] at hlow
  omega

end Octets

/-! ## Reading -/

namespace Der

/-- Contents are shorter than this: their lengths have at most a hundred and twenty-six octets. -/
def limit : Nat := 256 ^ 126

/-- A length. It is one octet below a hundred and twenty-eight; else it has its own octets, none of
which could be left out, behind their count. -/
def length? : List UInt8 → Option (Nat × List UInt8)
  | [] => none
  | first :: rest =>
    if first < 128 then some (first.toNat, rest)
    else
      let octets := rest.take (first.toNat - 128)
      if first ≠ 255 ∧ octets.length = first.toNat - 128 ∧ octets.head? ≠ some 0
          ∧ 128 ≤ Octets.toNat octets then
        some (Octets.toNat octets, rest.drop octets.length)
      else none

/-- The content behind a tag and its length. -/
def value? (tag : UInt8) : List UInt8 → Option (List UInt8 × List UInt8)
  | [] => none
  | first :: bs =>
    if first = tag then
      (length? bs).bind fun (n, rest) =>
        if n ≤ rest.length then some (rest.take n, rest.drop n) else none
    else none

/-- The content of a number without a sign: at least one octet, the top bit of the first one clear,
and no zero in front of an octet whose top bit is clear. -/
def unsigned? : List UInt8 → Option Nat
  | [] => none
  | [b] => if b < 128 then some b.toNat else none
  | b :: c :: rest =>
    if b < 128 ∧ ¬ (b = 0 ∧ c < 128) then some (Octets.toNat (b :: c :: rest)) else none

def natural? (bs : List UInt8) : Option (Nat × List UInt8) :=
  (value? 0x02 bs).bind fun (content, rest) => (unsigned? content).map fun n => (n, rest)

/-- What has nothing behind it. -/
def alone? {α : Type} : Option (α × List UInt8) → Option α
  | some (a, []) => some a
  | _ => none

/-- The octets of a string of bits of which none is unused. -/
def octets? : List UInt8 → Option (List UInt8)
  | 0 :: content => some content
  | _ => none

/-- The numbers of an object identifier, seven bits to an octet, the top bit of the last octet of
each clear. `begun` is the part of a number that was read. -/
def numbersFrom : Option Nat → List UInt8 → Option (List Nat)
  | none, [] => some []
  | some _, [] => none
  | begun, b :: bs =>
    let n := 128 * begun.getD 0 + b.toNat % 128
    if b < 128 then (numbersFrom none bs).map (n :: ·) else numbersFrom (some n) bs

/-- The arcs of an object identifier; the first two stand in one number. -/
def arcs? (content : List UInt8) : Option (List Nat) :=
  match numbersFrom none content with
  | some (n :: rest) => some (min (n / 40) 2 :: (n - 40 * min (n / 40) 2) :: rest)
  | _ => none

/-- The name of RSA among algorithms. -/
def rsaEncryption : List Nat := [1, 2, 840, 113549, 1, 1, 1]

/-- Modulus and exponent of a public key, whose algorithm must be RSA with a null for its
parameters. -/
def publicKeyInfo? (bs : List UInt8) : Option (Nat × Nat) := do
  let info ← alone? (value? 0x30 bs)
  let (algorithm, rest) ← value? 0x30 info
  let (identifier, parameters) ← value? 0x06 algorithm
  let null ← alone? (value? 0x05 parameters)
  let key ← (alone? (value? 0x03 rest)).bind octets?
  let numbers ← alone? (value? 0x30 key)
  let (modulus, rest) ← natural? numbers
  let exponent ← alone? (natural? rest)
  if arcs? identifier = some rsaEncryption ∧ null = [] then some (modulus, exponent) else none

/-! ## Lengths -/

theorem lt_128_iff {b : UInt8} : b < 128 ↔ b.toNat < 128 := UInt8.lt_iff_toNat_lt

theorem lt_limit_of_short {n : Nat} (h : n < 128) : n < limit :=
  Nat.lt_of_lt_of_le h (by decide)

/-- The length of a content below the limit has at most a hundred and twenty-six octets. -/
theorem count_le_of_lt_limit {n : Nat} (h : n < limit) : Octets.count n ≤ 126 := by
  by_cases hzero : n = 0
  · subst hzero
    decide
  · have hpow : 256 ^ (Octets.count n - 1) < 256 ^ 126 :=
      Nat.lt_of_le_of_lt (Octets.pow_count_le hzero) h
    have hcount := (Nat.pow_lt_pow_iff_right (by decide)).1 hpow
    omega

theorem length_of_short {b : UInt8} (h : b < 128) : length b.toNat = [b] := by
  rw [lt_128_iff] at h
  rw [length, if_pos h, UInt8.ofNat_toNat]

theorem length?_length {n : Nat} (h : n < limit) (rest : List UInt8) :
    length? (length n ++ rest) = some (n, rest) := by
  by_cases hshort : n < 128
  · have hn : (UInt8.ofNat n).toNat = n := UInt8.toNat_ofNat_of_lt' (show n < 256 by omega)
    have hlt : UInt8.ofNat n < 128 := by
      rw [lt_128_iff, hn]
      exact hshort
    rw [length, if_pos hshort, List.cons_append, List.nil_append, length?, if_pos hlt, hn]
  · have hcount := count_le_of_lt_limit h
    have hlength := Octets.length_magnitude n
    have hfirst : (UInt8.ofNat (128 + (Octets.magnitude n).length)).toNat
        = 128 + (Octets.magnitude n).length :=
      UInt8.toNat_ofNat_of_lt' (show _ < 256 by omega)
    have hlong : ¬ UInt8.ofNat (128 + (Octets.magnitude n).length) < 128 := by
      rw [lt_128_iff, hfirst]
      exact Nat.not_lt.2 (Nat.le_add_right 128 _)
    have hne : UInt8.ofNat (128 + (Octets.magnitude n).length) ≠ 255 := by
      intro heq
      have := congrArg UInt8.toNat heq
      rw [hfirst] at this
      change _ = 255 at this
      omega
    simp only [length, if_neg hshort, List.cons_append, length?, if_neg hlong, hfirst,
      Nat.add_sub_cancel_left, List.take_left, List.drop_left, Octets.toNat_magnitude]
    rw [if_pos ⟨hne, trivial, Octets.head?_magnitude n, by omega⟩]

theorem of_length? {bs rest : List UInt8} {n : Nat} (h : length? bs = some (n, rest)) :
    bs = length n ++ rest ∧ n < limit := by
  cases bs with
  | nil => cases h
  | cons first bs =>
    simp only [length?] at h
    split at h
    · next hshort =>
      cases h
      rw [length_of_short hshort]
      rw [lt_128_iff] at hshort
      exact ⟨rfl, lt_limit_of_short hshort⟩
    · next hlong =>
      split at h
      · next hlength =>
        obtain ⟨hne, hlength, hhead, hleast⟩ := hlength
        simp only [Option.some.injEq, Prod.mk.injEq] at h
        obtain ⟨rfl, rfl⟩ := h
        have hfirst := first.toNat_lt
        have hmost : first.toNat ≠ 255 := fun heq => hne (UInt8.toNat.inj heq)
        rw [lt_128_iff] at hlong
        constructor
        · have hcounted : 128 + (bs.take (first.toNat - 128)).length = first.toNat := by omega
          rw [length, if_neg (by omega), Octets.magnitude_toNat hhead]
          simp only [hcounted, UInt8.ofNat_toNat, List.cons_append]
          rw [hlength, List.take_append_drop]
        · calc Octets.toNat (bs.take (first.toNat - 128))
              < 256 ^ (bs.take (first.toNat - 128)).length := Octets.toNat_lt _
            _ ≤ 256 ^ 126 := Nat.pow_le_pow_right (by decide) (by omega)
      · cases h

/-- A length is read, whatever stands behind it, and only from its own octets. -/
theorem length?_eq_some_iff {bs rest : List UInt8} {n : Nat} :
    length? bs = some (n, rest) ↔ bs = length n ++ rest ∧ n < limit := by
  constructor
  · exact of_length?
  · rintro ⟨rfl, h⟩
    exact length?_length h rest

/-! ## Values -/

/-- A value is read, whatever stands behind it, and only from its own encoding. -/
theorem value?_eq_some_iff {tag : UInt8} {bs content rest : List UInt8} :
    value? tag bs = some (content, rest)
      ↔ bs = value tag content ++ rest ∧ content.length < limit := by
  cases bs with
  | nil => simp [value?, value]
  | cons first bs =>
    by_cases htag : first = tag
    · subst htag
      simp only [value?, if_pos, Option.bind_eq_some_iff, Prod.exists, length?_eq_some_iff, value,
        List.cons_append, List.cons.injEq, true_and, List.append_assoc]
      constructor
      · rintro ⟨n, behind, ⟨rfl, hlimit⟩, h⟩
        split at h
        · next hle =>
          cases h
          rw [List.length_take, Nat.min_eq_left hle, List.take_append_drop]
          exact ⟨rfl, hlimit⟩
        · cases h
      · rintro ⟨rfl, hlimit⟩
        refine ⟨content.length, content ++ rest, ⟨rfl, hlimit⟩, ?_⟩
        rw [if_pos (by simp), List.take_left, List.drop_left]
    · simp [value?, value, htag]

theorem alone?_eq_some_iff {α : Type} {r : Option (α × List UInt8)} {a : α} :
    alone? r = some a ↔ r = some (a, []) := by
  unfold alone?
  split <;> simp_all

theorem octets?_eq_some_iff {bits content : List UInt8} :
    octets? bits = some content ↔ bits = 0 :: content := by
  unfold octets?
  split <;> simp_all

/-- A content is shorter than the value that it is in. -/
theorem length_le_value (tag : UInt8) (content : List UInt8) :
    content.length ≤ (value tag content).length := by
  simp only [value, List.length_cons, List.length_append]
  omega

/-! ## Numbers -/

/-- The content of a number: its octets, behind a zero octet if the top bit is set. -/
def signed (n : Nat) : List UInt8 :=
  let bs := Octets.magnitude n
  if bs.head?.getD 128 < 128 then bs else 0 :: bs

theorem integer_eq (n : Nat) : integer n = value 0x02 (signed n) := rfl

theorem signed_of_clear {n : Nat} {b : UInt8} {bs : List UInt8}
    (hn : Octets.magnitude n = b :: bs) (hb : b < 128) : signed n = b :: bs := by
  simp only [signed, hn, List.head?_cons, Option.getD_some, if_pos hb]

theorem signed_of_set {n : Nat} {b : UInt8} {bs : List UInt8}
    (hn : Octets.magnitude n = b :: bs) (hb : ¬ b < 128) : signed n = 0 :: b :: bs := by
  simp only [signed, hn, List.head?_cons, Option.getD_some, if_neg hb]

theorem unsigned?_signed (n : Nat) : unsigned? (signed n) = some n := by
  have hvalue := Octets.toNat_magnitude n
  have hhead := Octets.head?_magnitude n
  cases hn : Octets.magnitude n with
  | nil =>
    rw [hn] at hvalue
    obtain rfl : n = 0 := hvalue.symm
    rfl
  | cons b bs =>
    rw [hn] at hvalue hhead
    have hb : b ≠ 0 := by
      rintro rfl
      exact hhead rfl
    by_cases hclear : b < 128
    · rw [signed_of_clear hn hclear]
      cases bs with
      | nil =>
        rw [unsigned?, if_pos hclear, ← hvalue]
        simp [Octets.toNat]
      | cons c rest => rw [unsigned?, if_pos ⟨hclear, fun h => hb h.1⟩, hvalue]
    · have hzero : Octets.toNat (0 :: b :: bs) = n := by
        rw [Octets.toNat_cons, hvalue]
        simp
      rw [signed_of_set hn hclear, unsigned?, if_pos ⟨by decide, fun h => hclear h.2⟩, hzero]

/-- A number has just one content. -/
theorem unsigned?_eq_some_iff {content : List UInt8} {n : Nat} :
    unsigned? content = some n ↔ content = signed n := by
  constructor
  · intro h
    unfold unsigned? at h
    split at h
    · cases h
    · next b =>
      split at h
      · next hclear =>
        obtain rfl := Option.some.inj h
        by_cases hb : b = 0
        · subst hb
          rfl
        · have hvalue : Octets.toNat [b] = b.toNat := by simp [Octets.toNat]
          have hoctets : Octets.magnitude b.toNat = [b] := by
            rw [← hvalue]
            exact Octets.magnitude_toNat (by simpa using hb)
          rw [signed_of_clear hoctets hclear]
      · cases h
    · next b c rest =>
      split at h
      · next hcontent =>
        obtain ⟨hclear, hneeded⟩ := hcontent
        obtain rfl := Option.some.inj h
        by_cases hb : b = 0
        · subst hb
          have hset : ¬ c < 128 := fun hc => hneeded ⟨rfl, hc⟩
          have hc : c ≠ 0 := by
            rintro rfl
            exact hset (by decide)
          have hvalue : Octets.toNat (0 :: c :: rest) = Octets.toNat (c :: rest) := by
            rw [Octets.toNat_cons]
            simp
          rw [hvalue, signed_of_set (Octets.magnitude_toNat (by simpa using hc)) hset]
        · rw [signed_of_clear (Octets.magnitude_toNat (by simpa using hb)) hclear]
      · cases h
  · rintro rfl
    exact unsigned?_signed n

theorem natural?_eq_some_iff {bs rest : List UInt8} {n : Nat} :
    natural? bs = some (n, rest) ↔ bs = integer n ++ rest ∧ (signed n).length < limit := by
  simp only [natural?, Option.bind_eq_some_iff, Option.map_eq_some_iff, Prod.exists, Prod.mk.injEq,
    value?_eq_some_iff, unsigned?_eq_some_iff, integer_eq]
  constructor
  · rintro ⟨content, behind, ⟨rfl, hlimit⟩, m, rfl, rfl, rfl⟩
    exact ⟨rfl, hlimit⟩
  · rintro ⟨rfl, hlimit⟩
    exact ⟨_, _, ⟨rfl, hlimit⟩, n, rfl, rfl, rfl⟩

/-! ## Public keys -/

/-- The content of an encoded key whose algorithm has the identifier. -/
def keyContent (identifier : List UInt8) (modulus exponent : Nat) : List UInt8 :=
  value 0x30 (value 0x06 identifier ++ value 0x05 [])
    ++ value 0x03 (0 :: value 0x30 (integer modulus ++ integer exponent))

theorem shape_of_publicKeyInfo? {bs : List UInt8} {modulus exponent : Nat}
    (h : publicKeyInfo? bs = some (modulus, exponent)) :
    ∃ identifier, arcs? identifier = some rsaEncryption
      ∧ bs = value 0x30 (keyContent identifier modulus exponent)
      ∧ (keyContent identifier modulus exponent).length < limit := by
  simp only [publicKeyInfo?, Option.bind_eq_bind, Option.bind_eq_some_iff, alone?_eq_some_iff,
    octets?_eq_some_iff, Prod.exists, value?_eq_some_iff, natural?_eq_some_iff,
    List.append_nil] at h
  obtain ⟨_, ⟨rfl, hlimit⟩, _, _, ⟨rfl, -⟩, identifier, _, ⟨rfl, -⟩, null, ⟨rfl, -⟩, _,
    ⟨_, ⟨rfl, -⟩, rfl⟩, _, ⟨rfl, -⟩, _, _, ⟨rfl, -⟩, _, ⟨rfl, -⟩, h⟩ := h
  split at h
  · next hkind =>
    obtain ⟨harcs, rfl⟩ := hkind
    simp only [Option.some.injEq, Prod.mk.injEq] at h
    obtain ⟨rfl, rfl⟩ := h
    exact ⟨identifier, harcs, rfl, hlimit⟩
  · cases h

theorem publicKeyInfo?_of_shape {identifier : List UInt8} {modulus exponent : Nat}
    (harcs : arcs? identifier = some rsaEncryption)
    (h : (keyContent identifier modulus exponent).length < limit) :
    publicKeyInfo? (value 0x30 (keyContent identifier modulus exponent))
      = some (modulus, exponent) := by
  -- what lies further inside is shorter
  have hlength := h
  simp only [keyContent, List.length_append] at hlength
  have halgorithm := length_le_value 0x30 (value 0x06 identifier ++ value 0x05 [])
  have hidentifier := length_le_value 0x06 identifier
  have hbits := length_le_value 0x03 (0 :: value 0x30 (integer modulus ++ integer exponent))
  have hnumbers := length_le_value 0x30 (integer modulus ++ integer exponent)
  have hmodulus := length_le_value 0x02 (signed modulus)
  have hexponent := length_le_value 0x02 (signed exponent)
  rw [← integer_eq] at hmodulus hexponent
  simp only [List.length_append, List.length_cons] at halgorithm hbits hnumbers
  simp only [publicKeyInfo?, Option.bind_eq_bind, Option.bind_eq_some_iff, alone?_eq_some_iff,
    octets?_eq_some_iff, Prod.exists, value?_eq_some_iff, natural?_eq_some_iff, List.append_nil]
  refine ⟨_, ⟨rfl, h⟩, _, _, ⟨rfl, ?_⟩, identifier, _, ⟨rfl, ?_⟩, [], ⟨rfl, ?_⟩, _,
    ⟨_, ⟨rfl, ?_⟩, rfl⟩, _, ⟨rfl, ?_⟩, modulus, _, ⟨rfl, ?_⟩, exponent, ⟨rfl, ?_⟩, ?_⟩
  · rw [List.length_append]
    omega
  · omega
  · exact lt_limit_of_short (by decide)
  · rw [List.length_cons]
    omega
  · rw [List.length_append]
    omega
  · omega
  · omega
  · rw [if_pos ⟨harcs, rfl⟩]

/-- What is read as a key of RSA is its encoding, and no other octets. -/
theorem publicKeyInfo?_eq_some_iff {bs : List UInt8} {modulus exponent : Nat} :
    publicKeyInfo? bs = some (modulus, exponent) ↔
      ∃ identifier, arcs? identifier = some rsaEncryption
        ∧ bs = value 0x30 (keyContent identifier modulus exponent)
        ∧ (keyContent identifier modulus exponent).length < limit := by
  constructor
  · exact shape_of_publicKeyInfo?
  · rintro ⟨identifier, harcs, rfl, h⟩
    exact publicKeyInfo?_of_shape harcs h

def rsaIdentifier : List UInt8 := [0x2a, 0x86, 0x48, 0x86, 0xf7, 0x0d, 0x01, 0x01, 0x01]

theorem arcs?_rsaIdentifier : arcs? rsaIdentifier = some rsaEncryption := by decide

theorem publicKeyInfo_eq (modulus exponent : Nat) :
    publicKeyInfo modulus exponent = value 0x30 (keyContent rsaIdentifier modulus exponent) := by
  simp only [publicKeyInfo, sequence, bitString, rsaAlgorithm, rsaIdentifier, keyContent,
    List.flatten_cons, List.flatten_nil, List.append_nil]

/-- A public key is read from its encoding, as long as that is below the limit. -/
theorem publicKeyInfo?_publicKeyInfo {modulus exponent : Nat}
    (h : (publicKeyInfo modulus exponent).length < limit) :
    publicKeyInfo? (publicKeyInfo modulus exponent) = some (modulus, exponent) := by
  rw [publicKeyInfo_eq] at h ⊢
  exact publicKeyInfo?_of_shape arcs?_rsaIdentifier (Nat.lt_of_le_of_lt (length_le_value _ _) h)

end Der

end TenantAuth
