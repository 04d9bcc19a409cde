-- Masking as it goes along the octets of a text. One index runs through the text and its copy in
-- lower case; it never comes to stand inside a character of either, so nothing is ever cut there,
-- and it comes to the end with the masked text written.

import TenantAuth.Proofs.Log.Pieces

namespace TenantAuth.Redaction

/-! ## Octets -/

/-- The octets of some characters. -/
def octets : List Char → Nat
  | [] => 0
  | c :: cs => c.utf8Size + octets cs

/-- What stands behind so many octets of a text. There is no answer if they end inside a
character, or if the text ends before. -/
def behind? : Nat → List Char → Option (List Char)
  | 0, cs => some cs
  | _ + 1, [] => none
  | n + 1, c :: cs => if c.utf8Size ≤ n + 1 then behind? (n + 1 - c.utf8Size) cs else none

@[simp] theorem octets_nil : octets [] = 0 := rfl

@[simp] theorem octets_cons (c : Char) (cs : List Char) :
    octets (c :: cs) = c.utf8Size + octets cs := rfl

@[simp] theorem octets_append (a b : List Char) : octets (a ++ b) = octets a + octets b := by
  induction a with
  | nil => rw [List.nil_append, octets_nil, Nat.zero_add]
  | cons c a ih => rw [List.cons_append, octets_cons, ih, octets_cons, Nat.add_assoc]

theorem octets_pos {cs : List Char} (h : cs ≠ []) : 0 < octets cs := by
  cases cs with
  | nil => exact absurd rfl h
  | cons c cs => exact Nat.add_pos_left c.utf8Size_pos _

theorem utf8ByteSize_ofList (cs : List Char) : (String.ofList cs).utf8ByteSize = octets cs := by
  induction cs with
  | nil => rfl
  | cons c cs ih =>
    have hsplit : String.ofList (c :: cs) = String.singleton c ++ String.ofList cs := by
      rw [String.singleton_eq_ofList, ← String.ofList_append]
      rfl
    rw [hsplit, String.utf8ByteSize_append, String.utf8ByteSize_singleton, ih, octets_cons]

theorem octets_toList (s : String) : octets s.toList = s.utf8ByteSize := by
  rw [← utf8ByteSize_ofList, String.ofList_toList]

/-- What has a lower case is one octet in both cases. -/
theorem utf8Size_toLower (c : Char) : c.toLower.utf8Size = c.utf8Size := by
  unfold Char.toLower
  split
  · next h =>
    have hZ : c.val.toNat ≤ 90 := UInt32.le_iff_toNat_le.1 h.2
    have hlower : (c.val + 32).toNat = c.val.toNat + 32 := by
      rw [UInt32.toNat_add]
      exact Nat.mod_eq_of_lt (show c.val.toNat + 32 < 2 ^ 32 by omega)
    have hone : ∀ d : Char, d.val.toNat ≤ 127 → d.utf8Size = 1 :=
      fun d hd => if_pos (UInt32.le_iff_toNat_le.2 hd)
    rw [hone c (by omega)]
    exact hone _ (by change (c.val + 32).toNat ≤ 127; omega)
  · rfl

/-- The copy in lower case has its characters where the text has them. -/
@[simp] theorem octets_lower (cs : List Char) : octets (lower cs) = octets cs := by
  induction cs with
  | nil => rfl
  | cons c cs ih => rw [lower_cons, octets_cons, utf8Size_toLower, ih, octets_cons]

theorem behind?_cons (c : Char) (n : Nat) (cs : List Char) :
    behind? (c.utf8Size + n) (c :: cs) = behind? n cs := by
  obtain ⟨k, hk⟩ := Nat.exists_eq_succ_of_ne_zero c.utf8Size_pos.ne'
  rw [hk, Nat.succ_add, behind?, hk, if_pos (by omega)]
  congr 1
  omega

theorem behind?_octets (passed rest : List Char) :
    behind? (octets passed) (passed ++ rest) = some rest := by
  induction passed with
  | nil => rw [octets_nil, List.nil_append, behind?]
  | cons c passed ih => rw [octets_cons, List.cons_append, behind?_cons, ih]

/-- Between two characters of a text is a position of it. -/
theorem isValid_octets {text : String} {passed rest : List Char}
    (h : text.toList = passed ++ rest) :
    String.Pos.Raw.IsValid text ⟨octets passed⟩ := by
  refine String.Pos.Raw.isValid_iff_exists_append.2
    ⟨String.ofList passed, String.ofList rest, ?_, ?_⟩
  · rw [← String.ofList_append, ← h, String.ofList_toList]
  · rw [String.rawEndPos, utf8ByteSize_ofList]

/-! ## The scan -/

/-- How many octets a scan has behind it, and what it has written. -/
structure Scan where
  index : Nat
  written : List Char

/-- One turn of the scan. Where the copy in lower case goes on with a word, a mask is written for
it; else the next character of the text is copied. There is no turn where one of them would be cut
inside a character. -/
def turn? (text : List Char) (s : Scan) : Option Scan := do
  let ahead ← behind? s.index (lower text)
  match words.find? fun w => w.isPrefixOf ahead with
  | some w => return ⟨s.index + octets w, s.written ++ mask⟩
  | none =>
    let rest ← behind? s.index text
    let c := rest.headD (Char.ofNat 0)
    return ⟨s.index + max c.utf8Size 1, s.written ++ [c]⟩

/-- The scan of a text gets there. It makes turns until the index is at the end. -/
inductive Reaches (text : List Char) : Scan → Prop
  | start : Reaches text ⟨0, []⟩
  | turn {s s' : Scan} (h : Reaches text s) (hlt : s.index < octets text)
      (hturn : turn? text s = some s') : Reaches text s'

/-- Some characters are behind the scan, and what it has written goes on with the masking of
the others. -/
def Stands (text : List Char) (s : Scan) : Prop :=
  ∃ passed rest, text = passed ++ rest ∧ s.index = octets passed ∧
    maskWords text = s.written ++ maskWords rest

variable {text : List Char} {s : Scan}

theorem find?_isPrefixOf (cs : List Char) :
    (words.find? fun w => w.isPrefixOf (lower cs)) = wordAt? cs := by
  unfold wordAt?
  congr 1
  funext w
  rw [Bool.eq_iff_iff, List.isPrefixOf_iff_prefix, beq_iff_eq, List.prefix_iff_eq_take, lower,
    ← List.map_take]
  exact eq_comm

/-- From between two characters a turn leads on, over one character or over a word. -/
theorem stands_turn (h : Stands text s) (hlt : s.index < octets text) :
    ∃ s', turn? text s = some s' ∧ s.index < s'.index ∧ Stands text s' := by
  obtain ⟨passed, rest, rfl, hindex, hmask⟩ := h
  have hne : rest ≠ [] := by
    rintro rfl
    simp [hindex] at hlt
  have hahead : behind? s.index (lower (passed ++ rest)) = some (lower rest) := by
    rw [lower_append, hindex, ← octets_lower, behind?_octets]
  have hrest : behind? s.index (passed ++ rest) = some rest := by
    rw [hindex, behind?_octets]
  have hturn : turn? (passed ++ rest) s = match wordAt? rest with
      | some w => some ⟨s.index + octets w, s.written ++ mask⟩
      | none => some ⟨s.index + max (rest.headD (Char.ofNat 0)).utf8Size 1,
          s.written ++ [rest.headD (Char.ofNat 0)]⟩ := by
    rw [turn?, hahead, Option.bind_eq_bind, Option.bind_some, find?_isPrefixOf]
    cases wordAt? rest with
    | some w => rfl
    | none => simp [hrest]
  cases hat : wordAt? rest with
  | some w =>
    obtain ⟨word, rfl, heq⟩ := exists_front_of_wordAt? hat
    have hword := (wordAt?_eq_some_iff.1 hat).1
    rw [hat] at hturn
    refine ⟨_, hturn, Nat.lt_add_of_pos_right (octets_pos (ne_nil_of_mem_words hword)),
      passed ++ word, rest.drop (lower word).length, ?_, ?_, ?_⟩
    · rw [List.append_assoc, ← heq]
    · simp [hindex]
    · rw [hmask, heq, maskWords_masked hword, ← heq, List.append_assoc]
  | none =>
    obtain ⟨c, rest, rfl⟩ := List.exists_cons_of_ne_nil hne
    rw [hat] at hturn
    have hpos := c.utf8Size_pos
    refine ⟨_, hturn, Nat.lt_add_of_pos_right (Nat.lt_of_lt_of_le hpos (Nat.le_max_left ..)),
      passed ++ [c], rest, by simp, ?_, ?_⟩
    · simp [hindex]
      omega
    · rw [hmask, maskWords_kept (wordAt?_eq_none_iff.1 hat)]
      simp

theorem stands_of_reaches (h : Reaches text s) : Stands text s := by
  induction h with
  | start => exact ⟨[], text, rfl, rfl, rfl⟩
  | turn _ hlt hturn ih =>
    obtain ⟨s', hturn', -, hs'⟩ := stands_turn ih hlt
    cases hturn.symm.trans hturn'
    exact hs'

theorem Stands.index_le (h : Stands text s) : s.index ≤ octets text := by
  obtain ⟨passed, rest, rfl, hindex, -⟩ := h
  rw [hindex, octets_append]
  exact Nat.le_add_right ..

/-- Turn after turn less is left, so the scan comes to the end. -/
theorem exists_reaches_end (h : Reaches text s) :
    ∃ s', Reaches text s' ∧ s'.index = octets text := by
  induction hleft : octets text - s.index using Nat.strong_induction_on generalizing s with
  | _ left ih =>
    have hle := (stands_of_reaches h).index_le
    rcases Nat.lt_or_eq_of_le hle with hlt | heq
    · obtain ⟨s', hturn, hfurther, -⟩ := stands_turn (stands_of_reaches h) hlt
      exact ih _ (by omega) (h.turn hlt hturn) rfl
    · exact ⟨s, h, heq⟩

/-- At the end the masked text is written. -/
theorem written_of_end (h : Stands text s) (hend : s.index = octets text) :
    s.written = maskWords text := by
  obtain ⟨passed, rest, rfl, hindex, hmask⟩ := h
  have hnil : rest = [] := by
    by_contra hne
    have hpos := octets_pos hne
    rw [hindex, octets_append] at hend
    omega
  rw [hmask, hnil, maskWords, List.append_nil]

/-! ## The law -/

/-- A scan of a text keeps to its characters, and comes to the end with the masked text. -/
structure ScansThrough (text : String) : Prop where
  /-- The index is a position of the text and of its copy in lower case. -/
  on_boundary : ∀ s, Reaches text.toList s →
    String.Pos.Raw.IsValid text ⟨s.index⟩ ∧ String.Pos.Raw.IsValid text.toLower ⟨s.index⟩
  /-- Before the end there is a next turn, and it leads further. -/
  goes_on : ∀ s, Reaches text.toList s → s.index < text.utf8ByteSize →
    ∃ s', turn? text.toList s = some s' ∧ s.index < s'.index
  comes_to_the_end : ∃ s, Reaches text.toList s ∧ s.index = text.utf8ByteSize
  /-- Where no turn is left to make the index is at the very end. -/
  writes : ∀ s, Reaches text.toList s → text.utf8ByteSize ≤ s.index →
    s.index = text.utf8ByteSize ∧ String.ofList s.written = redact text

theorem scansThrough (text : String) : ScansThrough text where
  on_boundary s h := by
    obtain ⟨passed, rest, htext, hindex, -⟩ := stands_of_reaches h
    have hcopy : text.toLower.toList = lower passed ++ lower rest := by
      refine String.toList_map.trans ?_
      rw [htext]
      exact lower_append ..
    rw [hindex]
    refine ⟨isValid_octets htext, ?_⟩
    rw [← octets_lower]
    exact isValid_octets hcopy
  goes_on s h hlt := by
    obtain ⟨s', hturn, hfurther, -⟩ :=
      stands_turn (stands_of_reaches h) (by rwa [octets_toList])
    exact ⟨s', hturn, hfurther⟩
  comes_to_the_end := by
    rw [← octets_toList]
    exact exists_reaches_end .start
  writes s h hge := by
    have hstands := stands_of_reaches h
    have hle := hstands.index_le
    rw [octets_toList] at hle
    have hend := Nat.le_antisymm hle hge
    refine ⟨hend, ?_⟩
    rw [written_of_end hstands (by rw [octets_toList, hend])]
    rfl

/-- Masking goes through a text without ever cutting a character. There is one way to find the
words of the text from the left, and the masked text is that one with a mask for each word; what
names no word is left as it is, each word in the text begins inside a masked one, and a letter
that no word has parts the text. -/
theorem masking_is_exact (text : String) :
    ScansThrough text ∧
    (∃! ps, LeftmostFirst ps ∧ source ps = text.toList) ∧
    (∀ ps, LeftmostFirst ps → source ps = text.toList →
      (redact text).toList = shown ps ∧
      ∀ before word behind, text.toList = before ++ word ++ behind → lower word ∈ words →
        ∃ ps₁ other ps₂, ps = ps₁ ++ .masked other :: ps₂ ∧
          (source ps₁).length ≤ before.length ∧
          before.length < (source ps₁).length + other.length) ∧
    (¬ Sensitive text → redact text = text) ∧
    ∀ (c : Char) (behind : String), Parts c →
      redact (text ++ String.singleton c ++ behind) =
        redact text ++ String.singleton c ++ redact behind := by
  refine ⟨scansThrough text, ?_, ?_, redact_eq_self,
    fun c behind hc => redact_append_cons hc text behind⟩
  · obtain ⟨ps, hps, hsource⟩ := exists_leftmostFirst text.toList
    exact ⟨ps, ⟨hps, hsource⟩, fun qs ⟨hqs, hq⟩ => eq_of_source_eq hqs hps (hq.trans hsource.symm)⟩
  · intro ps hps hsource
    refine ⟨?_, fun before word behind heq hword => ?_⟩
    · rw [redact, String.toList_ofList, ← hsource, maskWords_source hps]
    · exact exists_masked_of_word hps hword (hsource.trans heq)

/-- A blank parts a text in which each part names words, in one case or another. -/
theorem a_blank_parts_a_key_from_a_token :
    Parts ' ' ∧ redact ("the Key" ++ String.singleton ' ' ++ "TOKENS") =
      redact "the Key" ++ String.singleton ' ' ++ redact "TOKENS" :=
  ⟨by decide, (masking_is_exact "the Key").2.2.2.2 ' ' "TOKENS" (by decide)⟩

end TenantAuth.Redaction
