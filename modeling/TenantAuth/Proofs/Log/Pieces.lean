-- How a text falls into letters that are kept and words that are masked. From the left, a word
-- is taken as soon as one begins; there is one way to do so, and the masked text is it, piece by
-- piece. A letter that no word has parts a text, and each part is masked for itself.

import Mathlib.Logic.ExistsUnique
import TenantAuth.Proofs.Log

namespace TenantAuth.Redaction

/-- A piece of a text: a letter that is kept, or a word that is masked, as it stands there. -/
inductive Piece where
  | kept (c : Char)
  | masked (word : List Char)
  deriving DecidableEq, Repr

namespace Piece

/-- What the piece is of the text. -/
def source : Piece → List Char
  | kept c => [c]
  | masked word => word

/-- What is shown for the piece. -/
def shown : Piece → List Char
  | kept c => [c]
  | masked _ => mask

end Piece

/-- The text that is made of some pieces. -/
def source (ps : List Piece) : List Char := ps.flatMap Piece.source

/-- What is shown for some pieces. -/
def shown (ps : List Piece) : List Char := ps.flatMap Piece.shown

/-- Words are found from the left: a letter is kept where no word begins, in any case, and where
one begins it is masked. -/
inductive LeftmostFirst : List Piece → Prop
  | nil : LeftmostFirst []
  | kept {c : Char} {ps : List Piece} (h : ∀ w ∈ words, ¬ w <+: lower (c :: source ps))
      (hps : LeftmostFirst ps) : LeftmostFirst (.kept c :: ps)
  | masked {word : List Char} {ps : List Piece} (h : lower word ∈ words)
      (hps : LeftmostFirst ps) : LeftmostFirst (.masked word :: ps)

variable {cs v w word : List Char} {ps qs : List Piece} {c : Char}

@[simp] theorem source_nil : source [] = [] := rfl

@[simp] theorem source_kept (c : Char) (ps : List Piece) :
    source (.kept c :: ps) = c :: source ps := rfl

@[simp] theorem source_masked (word : List Char) (ps : List Piece) :
    source (.masked word :: ps) = word ++ source ps := rfl

@[simp] theorem shown_nil : shown [] = [] := rfl

@[simp] theorem shown_kept (c : Char) (ps : List Piece) :
    shown (.kept c :: ps) = c :: shown ps := rfl

@[simp] theorem shown_masked (word : List Char) (ps : List Piece) :
    shown (.masked word :: ps) = mask ++ shown ps := rfl

@[simp] theorem source_append (ps qs : List Piece) : source (ps ++ qs) = source ps ++ source qs :=
  List.flatMap_append

@[simp] theorem shown_append (ps qs : List Piece) : shown (ps ++ qs) = shown ps ++ shown qs :=
  List.flatMap_append

/-! ## The word at the front -/

@[simp] theorem lower_append (a b : List Char) : lower (a ++ b) = lower a ++ lower b :=
  List.map_append

@[simp] theorem length_lower (cs : List Char) : (lower cs).length = cs.length := List.length_map _

/-- No word begins with another, so at most one of them stands at the front of a text. -/
theorem prefix_unique (hv : v ∈ words) (hw : w ∈ words) (hvcs : v <+: cs) (hwcs : w <+: cs) :
    v = w := by
  have hapart : ∀ v ∈ words, ∀ w ∈ words, v <+: w → v = w := by decide
  rcases List.prefix_or_prefix_of_prefix hvcs hwcs with h | h
  · exact hapart v hv w hw h
  · exact (hapart w hw v hv h).symm

theorem wordAt?_eq_some_iff : wordAt? cs = some w ↔ w ∈ words ∧ w <+: lower cs := by
  have hfound : ∀ {w}, wordAt? cs = some w → w ∈ words ∧ w <+: lower cs := by
    intro w h
    refine ⟨List.mem_of_find?_eq_some h, ?_⟩
    have hat := List.find?_some h
    rw [beq_iff_eq, List.map_take] at hat
    exact List.prefix_iff_eq_take.2 hat.symm
  refine ⟨hfound, fun ⟨hw, hprefix⟩ => ?_⟩
  cases hat : wordAt? cs with
  | none => exact absurd hprefix (wordAt?_eq_none_iff.1 hat w hw)
  | some v => rw [prefix_unique (hfound hat).1 hw (hfound hat).2 hprefix]

theorem maskWords_kept (h : ∀ w ∈ words, ¬ w <+: lower (c :: cs)) :
    maskWords (c :: cs) = c :: maskWords cs := by
  rw [maskWords, wordAt?_eq_none_iff.2 h]

theorem maskWords_masked (h : lower word ∈ words) (cs : List Char) :
    maskWords (word ++ cs) = mask ++ maskWords cs := by
  cases word with
  | nil => exact absurd rfl (ne_nil_of_mem_words h)
  | cons c word =>
    have hfront : lower (c :: word) <+: lower (c :: (word ++ cs)) := by
      rw [← List.cons_append, lower_append]
      exact List.prefix_append ..
    have hat := wordAt?_eq_some_iff.2 ⟨h, hfront⟩
    rw [List.cons_append, maskWords, hat]
    simp

/-- A word at the front is a part of the text, in its case there. -/
theorem exists_front_of_wordAt? (h : wordAt? cs = some w) :
    ∃ word, lower word = w ∧ cs = word ++ cs.drop w.length := by
  have hprefix := (wordAt?_eq_some_iff.1 h).2
  refine ⟨cs.take w.length, ?_, (List.take_append_drop ..).symm⟩
  rw [lower, List.map_take, ← lower, ← List.prefix_iff_eq_take.1 hprefix]

/-! ## The pieces of a text -/

/-- Masking is showing the pieces. -/
theorem maskWords_source (h : LeftmostFirst ps) : maskWords (source ps) = shown ps := by
  induction h with
  | nil => rw [source_nil, maskWords, shown_nil]
  | kept h _ ih => rw [source_kept, maskWords_kept h, ih, shown_kept]
  | masked h _ ih => rw [source_masked, maskWords_masked h, ih, shown_masked]

theorem exists_leftmostFirst (cs : List Char) : ∃ ps, LeftmostFirst ps ∧ source ps = cs := by
  fun_induction maskWords cs with
  | case1 => exact ⟨[], .nil, rfl⟩
  | case2 c cs w hw ih =>
    obtain ⟨ps, hps, hsource⟩ := ih
    obtain ⟨word, rfl, heq⟩ := exists_front_of_wordAt? hw
    have hword := (wordAt?_eq_some_iff.1 hw).1
    refine ⟨.masked word :: ps, .masked hword hps, ?_⟩
    have hpos := List.length_pos_of_ne_nil (ne_nil_of_mem_words hword)
    rw [source_masked, hsource, heq, ← List.drop_succ_cons, Nat.sub_add_cancel hpos]
  | case3 c cs hnone ih =>
    obtain ⟨ps, hps, rfl⟩ := ih
    exact ⟨.kept c :: ps, .kept (wordAt?_eq_none_iff.1 hnone) hps, rfl⟩

theorem ne_nil_of_lower_mem (h : lower word ∈ words) : word ≠ [] := by
  rintro rfl
  exact ne_nil_of_mem_words h rfl

theorem prefix_of_word (word cs : List Char) : lower word <+: lower (word ++ cs) := by
  rw [lower_append]
  exact List.prefix_append ..

/-- There is one way to find the words of a text from the left. -/
theorem eq_of_source_eq (hps : LeftmostFirst ps) (hqs : LeftmostFirst qs)
    (h : source ps = source qs) : ps = qs := by
  induction hps generalizing qs with
  | nil =>
    cases hqs with
    | nil => rfl
    | kept => cases h
    | masked hword => exact absurd (List.append_eq_nil_iff.1 h.symm).1 (ne_nil_of_lower_mem hword)
  | @kept c ps hnone hps ih =>
    cases hqs with
    | nil => cases h
    | kept _ hqs =>
      obtain ⟨rfl, hrest⟩ := List.cons.inj h
      rw [ih hqs hrest]
    | masked hword =>
      rw [source_kept, source_masked] at h
      exact absurd (h ▸ prefix_of_word ..) (hnone _ hword)
  | @masked word ps hword hps ih =>
    cases hqs with
    | nil => exact absurd (List.append_eq_nil_iff.1 h).1 (ne_nil_of_lower_mem hword)
    | kept hnone =>
      rw [source_kept, source_masked] at h
      exact absurd (h ▸ prefix_of_word ..) (hnone _ hword)
    | @masked other qs hother hqs =>
      rw [source_masked, source_masked] at h
      have hlower : lower word = lower other :=
        prefix_unique hword hother (prefix_of_word word (source ps))
          (h ▸ prefix_of_word other (source qs))
      have hlength : word.length = other.length := by
        rw [← length_lower word, hlower, length_lower]
      obtain ⟨rfl, hrest⟩ := List.append_inj h hlength
      rw [ih hqs hrest]

/-! ## Where words stand -/

/-- A word that stands in the text begins inside one that is masked. -/
theorem exists_masked_of_word (h : LeftmostFirst ps) {before behind : List Char}
    (hword : lower word ∈ words) (heq : source ps = before ++ word ++ behind) :
    ∃ ps₁ other ps₂, ps = ps₁ ++ .masked other :: ps₂ ∧
      (source ps₁).length ≤ before.length ∧
      before.length < (source ps₁).length + other.length := by
  induction h generalizing before with
  | nil => exact absurd heq.symm (by simp [ne_nil_of_lower_mem hword])
  | @kept c ps hnone hps ih =>
    cases before with
    | nil =>
      rw [source_kept, List.nil_append] at heq
      exact absurd (heq ▸ prefix_of_word ..) (hnone _ hword)
    | cons d before =>
      obtain ⟨ps₁, other, ps₂, rfl, hle, hlt⟩ := ih (List.cons.inj heq).2
      exact ⟨.kept c :: ps₁, other, ps₂, rfl, by simpa using hle, by simp; omega⟩
  | @masked other ps hother hps ih =>
    rcases Nat.lt_or_ge before.length other.length with hlt | hge
    · exact ⟨[], other, ps, rfl, Nat.zero_le _, by simpa using hlt⟩
    · rw [source_masked, List.append_assoc] at heq
      obtain ⟨rest, rfl⟩ := List.prefix_of_prefix_length_le (heq ▸ List.prefix_append ..)
        (List.prefix_append before _) hge
      rw [List.append_assoc, List.append_cancel_left_eq] at heq
      obtain ⟨ps₁, found, ps₂, rfl, hle, hlt⟩ := ih (heq.trans (List.append_assoc ..).symm)
      exact ⟨.masked other :: ps₁, found, ps₂, rfl, by simp; omega, by simp; omega⟩

/-! ## Letters that part a text -/

/-- No word has the letter, in whatever case. -/
def Parts (c : Char) : Prop := ∀ w ∈ words, c.toLower ∉ w

instance (c : Char) : Decidable (Parts c) := inferInstanceAs (Decidable (∀ w ∈ words, _))

theorem prefix_of_prefix_append_cons {x : Char} {a b : List Char} (hx : x ∉ w)
    (h : w <+: a ++ x :: b) : w <+: a := by
  induction a generalizing w with
  | nil =>
    rcases List.prefix_cons_iff.1 h with rfl | ⟨t, rfl, -⟩
    · exact List.nil_prefix
    · exact absurd List.mem_cons_self hx
  | cons d a ih =>
    rcases List.prefix_cons_iff.1 h with rfl | ⟨t, rfl, ht⟩
    · exact List.nil_prefix
    · exact List.cons_prefix_cons.2 ⟨rfl, ih (fun hm => hx (List.mem_cons_of_mem _ hm)) ht⟩

theorem LeftmostFirst.append_cons (hc : Parts c) (hps : LeftmostFirst ps) (hqs : LeftmostFirst qs) :
    LeftmostFirst (ps ++ .kept c :: qs) := by
  induction hps with
  | nil =>
    refine .kept (fun w hw h => ?_) hqs
    have hnil := prefix_of_prefix_append_cons (a := []) (hc w hw) h
    exact ne_nil_of_mem_words hw (List.prefix_nil.1 hnil)
  | @kept d ps hnone hps ih =>
    refine .kept (fun w hw h => hnone w hw ?_) ih
    rw [List.append_eq, source_append, source_kept, ← List.cons_append, lower_append,
      lower_cons (c := c)] at h
    exact prefix_of_prefix_append_cons (hc w hw) h
  | masked hword hps ih => exact .masked hword ih

/-- Each part of a text is masked for itself. -/
theorem maskWords_append_cons (hc : Parts c) (a b : List Char) :
    maskWords (a ++ c :: b) = maskWords a ++ c :: maskWords b := by
  obtain ⟨ps, hps, rfl⟩ := exists_leftmostFirst a
  obtain ⟨qs, hqs, rfl⟩ := exists_leftmostFirst b
  have hsource : source ps ++ c :: source qs = source (ps ++ .kept c :: qs) := by simp
  rw [hsource, maskWords_source (hps.append_cons hc hqs), maskWords_source hps,
    maskWords_source hqs]
  simp

theorem redact_append_cons (hc : Parts c) (a b : String) :
    redact (a ++ String.singleton c ++ b) = redact a ++ String.singleton c ++ redact b := by
  apply String.toList_injective
  simp [redact, maskWords_append_cons hc]

end TenantAuth.Redaction
