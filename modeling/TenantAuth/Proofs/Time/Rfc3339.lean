-- A time that is written is read back, whatever its year and its fraction, and also if it names a
-- leap second. Each part of the text is read off its front, so every lemma is for a part with any
-- text behind it.

import TenantAuth.Proofs.Json.Number
import TenantAuth.Proofs.Text.Trim
import TenantAuth.Proofs.Time.Calendar
import TenantAuth.Time.Rfc3339

namespace TenantAuth.Text

/-! ## Padded numbers -/

theorem isDigit_of_mem_padded {width n : Nat} {c : Char} (h : c ∈ padded width n) :
    c.isDigit = true := by
  unfold padded at h
  rcases List.mem_append.1 h with h | h
  · obtain ⟨-, rfl⟩ := List.mem_replicate.1 h
    decide
  · exact Nat.isDigit_of_mem_toDigits (by decide) (by decide) h

theorem padded_ne_nil (width n : Nat) : padded width n ≠ [] := by
  unfold padded
  intro h
  exact Nat.toDigits_ne_nil (List.append_eq_nil_iff.1 h).2

/-- A digit stands in front. -/
theorem exists_cons_padded (width n : Nat) :
    ∃ c cs, padded width n = c :: cs ∧ c.isDigit = true := by
  obtain ⟨c, cs, h⟩ := List.exists_cons_of_ne_nil (padded_ne_nil width n)
  have hc : c ∈ padded width n := by
    rw [h]
    exact List.mem_cons_self
  exact ⟨c, cs, h, isDigit_of_mem_padded hc⟩

theorem length_padded {width n : Nat} (hwidth : 0 < width) (hn : n < 10 ^ width) :
    (padded width n).length = width := by
  have hlen : (Nat.toDigits 10 n).length ≤ width :=
    (Nat.length_toDigits_le_iff (by decide) hwidth).2 hn
  simp only [padded, List.length_append, List.length_replicate]
  omega

/-- Zeros in front change no number. -/
theorem valueOfDigits_padded (width n : Nat) : valueOfDigits (padded width n) = n := by
  have hzeros : ∀ k : Nat, (List.replicate k '0').foldl (fun acc c => 10 * acc + (c.toNat - 48)) 0
      = 0 := by
    intro k
    induction k with
    | zero => rfl
    | succ k ih => simpa [List.replicate_succ] using ih
  have hdigits := valueOfDigits_toDigits n
  unfold valueOfDigits at hdigits
  simp only [valueOfDigits, padded, List.foldl_append, hzeros, hdigits]

theorem isBlank_of_isDigit {c : Char} (h : c.isDigit = true) : isBlank c = false := by
  unfold Char.isDigit at h
  rw [Bool.and_eq_true, decide_eq_true_eq, decide_eq_true_eq] at h
  have hlow : 48 ≤ c.toNat := h.1
  have hhigh : c.toNat ≤ 57 := h.2
  simp [isBlank]
  omega

theorem trimFront_padded (width n : Nat) (rest : List Char) :
    trimFront (padded width n ++ rest) = padded width n ++ rest := by
  apply trimFront_eq_self
  intro c hc
  rw [List.head?_append_of_ne_nil _ (padded_ne_nil width n)] at hc
  exact isBlank_of_isDigit (isDigit_of_mem_padded (List.mem_of_mem_head? hc))

end TenantAuth.Text

namespace TenantAuth.Timestamp

open TenantAuth.Text

/-! ## Numbers -/

theorem bind_of_eq_some {α β : Type} {o : Option α} {a : α} {f : α → Option β} (h : o = some a) :
    (o >>= f) = f a := by
  rw [h]
  rfl

/-- Digits are read up to where no more are wanted, or where none stands. -/
theorem digits?_append {most : Nat} {ds rest : List Char} (hds : ∀ c ∈ ds, c.isDigit = true)
    (hne : ds ≠ []) (hend : ds.length = most
      ∨ (ds.length ≤ most ∧ ∀ c ∈ rest.head?, c.isDigit = false)) :
    digits? most (ds ++ rest) = some (valueOfDigits ds, ds.length, rest) := by
  have htake : ((ds ++ rest).takeWhile Char.isDigit).take most = ds := by
    rw [List.takeWhile_append_of_pos hds]
    rcases hend with rfl | ⟨hle, hstop⟩
    · exact List.take_left
    · have hnone : rest.takeWhile Char.isDigit = [] := by
        cases rest with
        | nil => rfl
        | cons c rest => simp [hstop c rfl]
      rw [hnone, List.append_nil, List.take_of_length_le hle]
  have hsome : ds.isEmpty = false := by simpa using hne
  simp only [digits?, htake, hsome, Bool.false_eq_true, if_false, List.drop_left]

theorem digits?_padded {width n : Nat} (rest : List Char) (hwidth : 0 < width)
    (hn : n < 10 ^ width) : digits? width (padded width n ++ rest) = some (n, width, rest) := by
  have hlen := length_padded hwidth hn
  rw [digits?_append (fun c hc => isDigit_of_mem_padded hc) (padded_ne_nil width n) (Or.inl hlen),
    valueOfDigits_padded, hlen]

theorem field?_padded {low high n : Nat} (rest : List Char) (hlow : low ≤ n) (hhigh : n ≤ high)
    (hn : n < 100) : field? low high (padded 2 n ++ rest) = some (n, rest) := by
  simp only [field?, trimFront_padded, digits?_padded rest (by decide : 0 < 2) hn,
    Option.bind_eq_bind, Option.bind_some]
  rw [if_pos ⟨hlow, hhigh⟩]

theorem mark?_cons {c : Char} (rest : List Char) (hc : isBlank c = false) :
    mark? c (c :: rest) = some rest := by
  have htrim : trimFront (c :: rest) = c :: rest := by
    apply trimFront_eq_self
    intro d hd
    obtain rfl := Option.some.inj hd
    exact hc
  simp only [mark?, htrim, if_true]

/-! ## Years -/

/-- A year that is written with a sign is read up to the mark behind it. -/
theorem digits?_year (n : Nat) (rest : List Char) :
    digits? (padded 4 n ++ '-' :: rest).length (padded 4 n ++ '-' :: rest)
      = some (n, (padded 4 n).length, '-' :: rest) := by
  have hstop : ∀ c ∈ ('-' :: rest).head?, c.isDigit = false := by
    intro c hc
    obtain rfl := Option.some.inj hc
    decide
  rw [digits?_append (fun c hc => isDigit_of_mem_padded hc) (padded_ne_nil 4 n)
    (Or.inr ⟨by simp, hstop⟩), valueOfDigits_padded]

theorem year?_yearChars (y : Int) (rest : List Char) :
    year? (yearChars y ++ '-' :: rest) = some (y, '-' :: rest) := by
  unfold yearChars
  split
  · next hy =>
    have hread := digits?_padded ('-' :: rest) (by decide : 0 < 4)
      (show y.toNat < 10 ^ 4 by omega)
    obtain ⟨c, cs, hcs, hc⟩ := exists_cons_padded 4 y.toNat
    unfold year?
    rw [trimFront_padded]
    rw [hcs] at hread ⊢
    -- The first character is a digit, so it is taken for no sign.
    split
    · next heq =>
      obtain ⟨rfl, -⟩ := List.cons.inj heq
      simp at hc
    · next heq =>
      obtain ⟨rfl, -⟩ := List.cons.inj heq
      simp at hc
    · simp only [hread, Option.map_some, Int.toNat_of_nonneg hy.1]
  · next hy =>
    have htrim : ∀ c ∈ ['-', '+'], ∀ cs, trimFront (c :: cs) = c :: cs := by
      intro c hc cs
      apply trimFront_eq_self
      intro d hd
      obtain rfl := Option.some.inj hd
      simp only [List.mem_cons, List.not_mem_nil, or_false] at hc
      rcases hc with rfl | rfl <;> decide
    by_cases hneg : y < 0
    · simp only [if_pos hneg, List.cons_append, year?, htrim '-' (by simp), digits?_year,
        Option.map_some]
      rw [show -(y.natAbs : Int) = y by omega]
    · simp only [if_neg hneg, List.cons_append, year?, htrim '+' (by simp), digits?_year,
        Option.map_some]
      rw [show (y.natAbs : Int) = y by omega]

/-! ## Fractions -/

theorem fraction?_groups {width n : Nat} (hwidth : 0 < width) (hwidth' : width ≤ 9)
    (hn : n < 10 ^ width) :
    fraction? ('.' :: padded width n ++ ['Z']) = some (n * 10 ^ (9 - width), ['Z']) := by
  have hstop : ∀ c ∈ ['Z'].head?, c.isDigit = false := by
    intro c hc
    obtain rfl := Option.some.inj hc
    decide
  have hlen := length_padded hwidth hn
  simp only [fraction?, List.cons_append]
  rw [digits?_append (fun c hc => isDigit_of_mem_padded hc) (padded_ne_nil width n)
    (Or.inr ⟨by omega, hstop⟩), valueOfDigits_padded, hlen]
  rfl

/-- A fraction is written with as many digits as it needs, and read as what it was. -/
theorem fraction?_fractionChars {nanos : Nat} (h : nanos < 1000000000) :
    fraction? (fractionChars nanos ++ ['Z']) = some (nanos, ['Z']) := by
  unfold fractionChars
  split
  · next hzero =>
    rw [hzero]
    rfl
  split
  · next hmillis =>
    rw [fraction?_groups (by decide) (by decide) (by omega)]
    simp only [Option.some.injEq, Prod.mk.injEq, and_true]
    omega
  split
  · next hmicros =>
    rw [fraction?_groups (by decide) (by decide) (by omega)]
    simp only [Option.some.injEq, Prod.mk.injEq, and_true]
    omega
  · rw [fraction?_groups (by decide) (by decide) (by omega)]
    simp

/-! ## The whole text -/

/-- What is made of the parts of a time once they are read. -/
theorem ofChars?_of_parts {cs₀ cs₁ cs₂ cs₃ cs₄ cs₅ cs₆ cs₇ cs₈ cs₉ cs₁₀ cs₁₁ cs₁₂ : List Char}
    {year offset : Int} {month day hour minute second nanos : Nat}
    (hyear : year? cs₀ = some (year, cs₁)) (hmark : mark? '-' cs₁ = some cs₂)
    (hmonth : field? 1 12 cs₂ = some (month, cs₃)) (hmark' : mark? '-' cs₃ = some cs₄)
    (hday : field? 1 31 cs₄ = some (day, cs₅)) (htime : dateTimeMark? cs₅ = some cs₆)
    (hhour : field? 0 23 cs₆ = some (hour, cs₇)) (hcolon : mark? ':' cs₇ = some cs₈)
    (hminute : field? 0 59 cs₈ = some (minute, cs₉)) (hcolon' : mark? ':' cs₉ = some cs₁₀)
    (hsecond : field? 0 60 cs₁₀ = some (second, cs₁₁))
    (hnanos : fraction? cs₁₁ = some (nanos, cs₁₂))
    (hoffset : offset? (trimFront cs₁₂) = some (offset, []))
    (hdate : (Date.mk year month day).Exists)
    (hrange : firstDay ≤ (Date.mk year month day).toDays
      ∧ (Date.mk year month day).toDays ≤ lastDay) :
    ofChars? cs₀ =
      ofParts? ((Date.mk year month day).toDays * 86400
          + (hour * 3600 + minute * 60 + (if second = 60 then 59 else second : Nat)) - offset)
        (if second = 60 then nanos + 1000000000 else nanos) := by
  have hend : ¬ (trimFront []).isEmpty = false := by decide
  have hinside : ¬ ((Date.mk year month day).toDays < firstDay
      ∨ lastDay < (Date.mk year month day).toDays) := by omega
  unfold ofChars?
  -- One part after the other: each is there, and the reading goes on behind it.
  refine (bind_of_eq_some hyear).trans <| (bind_of_eq_some hmark).trans <|
    (bind_of_eq_some hmonth).trans <| (bind_of_eq_some hmark').trans <|
    (bind_of_eq_some hday).trans <| (bind_of_eq_some htime).trans <|
    (bind_of_eq_some hhour).trans <| (bind_of_eq_some hcolon).trans <|
    (bind_of_eq_some hminute).trans <| (bind_of_eq_some hcolon').trans <|
    (bind_of_eq_some hsecond).trans <| (bind_of_eq_some hnanos).trans <|
    (bind_of_eq_some hoffset).trans ?_
  simp only [if_neg hend, if_neg (not_not_intro hdate), if_neg hinside]

/-- The text of a date and a time of day in UTC. -/
def partsChars (date : Date) (hour minute second nanos : Nat) : List Char :=
  yearChars date.year ++ '-' :: (padded 2 date.month ++ '-' :: (padded 2 date.day ++
    'T' :: (padded 2 hour ++ ':' :: (padded 2 minute ++
      ':' :: (padded 2 second ++ (fractionChars nanos ++ ['Z']))))))

theorem ofChars?_partsChars {date : Date} {hour minute second nanos : Nat} (hdate : date.Exists)
    (hrange : firstDay ≤ date.toDays ∧ date.toDays ≤ lastDay) (hhour : hour ≤ 23)
    (hminute : minute ≤ 59) (hsecond : second ≤ 60) (hnanos : nanos < 1000000000) :
    ofChars? (partsChars date hour minute second nanos) =
      ofParts? (date.toDays * 86400
          + (hour * 3600 + minute * 60 + (if second = 60 then 59 else second : Nat)))
        (if second = 60 then nanos + 1000000000 else nanos) := by
  have ⟨hmonth, hmonth', hday, hday'⟩ := hdate
  have hlength : date.day ≤ 31 := by
    unfold Date.daysInMonth at hday'
    split_ifs at hday' <;> omega
  have hdash : isBlank '-' = false := by decide
  have hcolon : isBlank ':' = false := by decide
  have hutc : offset? (trimFront ['Z']) = some (0, []) := by decide
  have h := ofChars?_of_parts (year?_yearChars _ _) (mark?_cons _ hdash)
    (field?_padded _ hmonth hmonth' (by omega)) (mark?_cons _ hdash)
    (field?_padded _ hday hlength (by omega)) (rfl : dateTimeMark? ('T' :: _) = _)
    (field?_padded _ (Nat.zero_le hour) hhour (by omega)) (mark?_cons _ hcolon)
    (field?_padded _ (Nat.zero_le minute) hminute (by omega)) (mark?_cons _ hcolon)
    (field?_padded _ (Nat.zero_le second) hsecond (by omega)) (fraction?_fractionChars hnanos)
    hutc hdate hrange
  rw [Int.sub_zero] at h
  exact h

/-! ## Reading back -/

theorem chars_eq (t : Timestamp) :
    t.chars =
      partsChars (Date.ofDays (t.second / 86400)) ((t.second % 86400).toNat / 3600)
        ((t.second % 86400).toNat / 60 % 60)
        ((t.second % 86400).toNat % 60 + (if 1000000000 ≤ t.nanos then 1 else 0))
        (if 1000000000 ≤ t.nanos then t.nanos - 1000000000 else t.nanos) := by
  simp only [chars, partsChars, List.append_assoc, List.cons_append]

theorem ofParts?_self (t : Timestamp) : ofParts? t.second t.nanos = some t := by
  unfold ofParts?
  rw [dif_pos ⟨⟨t.earliest_le, t.le_latest⟩, t.leap⟩]

/-- A written time is read back. -/
theorem ofChars?_chars (t : Timestamp) : ofChars? t.chars = some t := by
  have hlow := t.earliest_le
  have hhigh := t.le_latest
  have hleap := t.leap
  have hrange : firstDay ≤ t.second / 86400 ∧ t.second / 86400 ≤ lastDay := by
    unfold firstDay lastDay
    unfold Instant.earliestSecond at hlow
    unfold Instant.latestSecond at hhigh
    omega
  rw [← Date.toDays_ofDays (t.second / 86400)] at hrange
  rw [chars_eq, ofChars?_partsChars (Date.exists_ofDays _) hrange (by omega) (by omega)
    (by split_ifs <;> omega) (by split_ifs <;> omega), Date.toDays_ofDays]
  -- Only the last second of a minute has a leap second behind it.
  by_cases hlong : 1000000000 ≤ t.nanos
  · have hsecond : (t.second % 86400).toNat % 60 + 1 = 60 := by omega
    simp only [if_pos hlong, hsecond, if_true]
    rw [← ofParts?_self t]
    congr 1
    · omega
    · omega
  · have hsecond : ¬ (t.second % 86400).toNat % 60 + 0 = 60 := by omega
    simp only [if_neg hlong, if_neg hsecond]
    rw [← ofParts?_self t]
    congr 1
    omega

theorem ofRfc3339?_toRfc3339 (t : Timestamp) : ofRfc3339? t.toRfc3339 = some t := by
  unfold ofRfc3339? toRfc3339
  rw [String.toList_ofList]
  exact ofChars?_chars t

end TenantAuth.Timestamp
