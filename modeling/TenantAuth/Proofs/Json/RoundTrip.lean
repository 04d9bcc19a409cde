-- A value that is written is read back. The text of a value consists of its
-- words, and its words build the value; in between stands `words`, which both
-- halves are about.

import TenantAuth.Proofs.Json.Number

namespace TenantAuth.Json

open TenantAuth.Text

/-! ## The words of a value -/

mutual

/-- The words that a value is written with. -/
def words : Json String → List Token
  | .null => [.null]
  | .bool b => [.bool b]
  | .number text => [.number text]
  | .string text => [.string (.text text)]
  | .array [] => [.openBracket, .closeBracket]
  | .array (v :: vs) => .openBracket :: (words v ++ itemWords vs)
  | .object [] => [.openBrace, .closeBrace]
  | .object ((k, v) :: ms) =>
    .openBrace :: .string (.text k) :: .colon :: (words v ++ memberWords ms)

/-- The words behind the first item. -/
def itemWords : List (Json String) → List Token
  | [] => [.closeBracket]
  | v :: vs => .comma :: (words v ++ itemWords vs)

/-- The words behind the first member. -/
def memberWords : List (String × Json String) → List Token
  | [] => [.closeBrace]
  | (k, v) :: ms => .comma :: .string (.text k) :: .colon :: (words v ++ memberWords ms)

end

mutual

/-- Every number in a value has the form of one. -/
def Numeric {σ : Type} : Json σ → Prop
  | .number text => IsNumeral text
  | .array items => NumericItems items
  | .object members => NumericMembers members
  | .null | .bool _ | .string _ => True

def NumericItems {σ : Type} : List (Json σ) → Prop
  | [] => True
  | v :: vs => Numeric v ∧ NumericItems vs

def NumericMembers {σ : Type} : List (σ × Json σ) → Prop
  | [] => True
  | (_, v) :: ms => Numeric v ∧ NumericMembers ms

end

theorem numeric_ofInt (n : Int) : (ofInt n).Numeric := by
  cases n with
  | ofNat n =>
    simp only [ofInt, ofNat, Numeric]
    exact isNumeral_toDigits n
  | negSucc n =>
    simp only [ofInt, Numeric]
    exact isNumeral_minus (Nat.succ_pos n)

/-! ## From characters to words -/

theorem lexFrom_cons {mode next : Mode} {c : Option Char} {tokens out : List Token}
    {rest : List (Option Char)} (h : step mode c = ⟨tokens, some next⟩) :
    lexFrom mode out (c :: rest) = lexFrom next (tokens ++ out) rest := by
  cases mode <;> simp only [lexFrom, h]

/-- A character that may stand behind a value inside another one. -/
def Closing (c : Char) : Prop := c = ',' ∨ c = ']' ∨ c = '\x7d'

/-- What may stand behind a value: nothing, or a closing character. -/
def Follows (rest : List (Option Char)) : Prop :=
  rest = [] ∨ ∃ c rest', rest = some c :: rest' ∧ Closing c

theorem follows_cons {c : Char} {rest : List (Option Char)} (h : Closing c) :
    Follows (some c :: rest) := Or.inr ⟨c, rest, rfl, h⟩

theorem next?_closing (s : NumberState) {c : Char} (h : Closing c) : s.next? c = none := by
  rcases h with rfl | rfl | rfl <;> cases s <;> decide

/-- A number ends where it can, if what follows does not go on with it. -/
theorem lexFrom_numberEnd {seen : List Char} {s : NumberState} {out : List Token}
    {rest : List (Option Char)} (hs : s.complete = true) (hrest : Follows rest) :
    lexFrom (.number seen s) out rest = lexFrom .between (.number seen.reverse :: out) rest := by
  rcases hrest with rfl | ⟨c, rest', rfl, hc⟩
  · simp only [lexFrom, hs, if_true]
  · have hstop := next?_closing s hc
    simp only [lexFrom, step, Option.bind_some, hstop, hs, if_true, Option.map_some,
      Option.getD_some]
    cases (stepBetween c).mode <;> simp

theorem lexFrom_number {cs seen : List Char} {s s' : NumberState} {out : List Token}
    {rest : List (Option Char)} (hrun : cs.foldlM NumberState.next? s = some s')
    (hs' : s'.complete = true) (hrest : Follows rest) :
    lexFrom (.number seen s) out (cs.map some ++ rest)
      = lexFrom .between (.number (seen.reverse ++ cs) :: out) rest := by
  induction cs generalizing s seen with
  | nil =>
    obtain rfl := Option.some.inj hrun
    rw [List.map_nil, List.nil_append, List.append_nil, lexFrom_numberEnd hs' hrest]
  | cons c cs ih =>
    rw [List.foldlM_cons, Option.bind_eq_bind, Option.bind_eq_some_iff] at hrun
    obtain ⟨t, ht, hrun⟩ := hrun
    have hstep : step (.number seen s) (some c) = ⟨[], some (.number (c :: seen) t)⟩ := by
      simp only [step, Option.bind_some, ht, Option.toList_some, List.singleton_append]
    rw [List.map_cons, List.cons_append, lexFrom_cons hstep, List.nil_append, ih hrun,
      List.reverse_cons, List.append_assoc, List.singleton_append]

/-- A first character of a number begins no other word. -/
theorem stepBetween_number {c : Char} {s : NumberState} (h : NumberState.first? c = some s) :
    stepBetween c = ⟨[], some (.number [c] s)⟩ := by
  have hne : ∀ d, NumberState.first? d = none → c ≠ d := by
    rintro d hd rfl
    rw [hd] at h
    exact absurd h (by simp)
  simp only [stepBetween, hne ' ' rfl, hne '\n' rfl, hne '\t' rfl, hne '\r' rfl, hne '\x7b' rfl,
    hne '\x7d' rfl, hne '[' rfl, hne ']' rfl, hne ',' rfl, hne ':' rfl, hne '"' rfl, hne 'n' rfl,
    hne 't' rfl, hne 'f' rfl, h, or_self, if_false]

theorem lexFrom_numeral {text : List Char} {out : List Token} {rest : List (Option Char)}
    (h : IsNumeral text) (hrest : Follows rest) :
    lexFrom .between out (text.map some ++ rest)
      = lexFrom .between (.number text :: out) rest := by
  obtain ⟨s', hafter, hs'⟩ := h
  cases text with
  | nil => simp [NumberState.after?] at hafter
  | cons c cs =>
    simp only [NumberState.after?, Option.bind_eq_some_iff] at hafter
    obtain ⟨s, hfirst, hrun⟩ := hafter
    have hstep : step .between (some c) = ⟨[], some (.number [c] s)⟩ := stepBetween_number hfirst
    rw [List.map_cons, List.cons_append, lexFrom_cons hstep, List.nil_append,
      lexFrom_number hrun hs' hrest]
    rfl

/-! ## Strings -/

/-- The string mode, between two characters of the string. -/
def inside (read : List Char) : Mode := .quoted ⟨.ok read, none⟩ .plain

theorem lexFrom_self {c : Char} {read : List Char} {out : List Token} {rest : List (Option Char)}
    (hquote : c ≠ '"') (hback : c ≠ '\\') (hcontrol : ¬ c.toNat < 0x20) :
    lexFrom (inside read) out (some c :: rest) = lexFrom (inside (c :: read)) out rest := by
  have hstep : step (inside read) (some c) = ⟨[], some (inside (c :: read))⟩ := by
    simp only [inside, step, stepQuoted, if_neg hquote, if_neg hback, if_neg hcontrol, Quoted.push]
  rw [lexFrom_cons hstep, List.nil_append]

theorem lexFrom_escaped {e c : Char} {read : List Char} {out : List Token}
    {rest : List (Option Char)} (he : escaped? e = some c) (hu : e ≠ 'u') :
    lexFrom (inside read) out (some '\\' :: some e :: rest)
      = lexFrom (inside (c :: read)) out rest := by
  have hback : step (inside read) (some '\\')
      = ⟨[], some (.quoted ⟨.ok read, none⟩ .escape)⟩ := rfl
  have hstep : step (.quoted ⟨.ok read, none⟩ .escape) (some e)
      = ⟨[], some (inside (c :: read))⟩ := by
    simp only [inside, step, stepQuoted, if_neg hu, he, Quoted.push]
  rw [lexFrom_cons hback, lexFrom_cons hstep, List.nil_append, List.nil_append]

theorem lexFrom_unit {c : Char} {read : List Char} {out : List Token} {rest : List (Option Char)}
    (h : c.toNat < 0x20) :
    lexFrom (inside read) out
        (some '\\' :: some 'u' :: some '0' :: some '0' :: some (hexDigit (c.toNat / 16))
          :: some (hexDigit (c.toNat % 16)) :: rest)
      = lexFrom (inside (c :: read)) out rest := by
  let q : Quoted := ⟨.ok read, none⟩
  have hback : step (inside read) (some '\\') = ⟨[], some (.quoted q .escape)⟩ := rfl
  have hu : step (.quoted q .escape) (some 'u') = ⟨[], some (.quoted q (.unit 3 0))⟩ := rfl
  have h3 : step (.quoted q (.unit 3 0)) (some '0') = ⟨[], some (.quoted q (.unit 2 0))⟩ := rfl
  have h2 : step (.quoted q (.unit 2 0)) (some '0') = ⟨[], some (.quoted q (.unit 1 0))⟩ := rfl
  have h1 : step (.quoted q (.unit 1 0)) (some (hexDigit (c.toNat / 16)))
      = ⟨[], some (.quoted q (.unit 0 (c.toNat / 16)))⟩ := by
    simp only [step, stepQuoted, Option.bind_some,
      hexValue?_hexDigit _ (show c.toNat / 16 < 16 by omega), Nat.mul_zero, Nat.zero_add]
  have hpush : q.pushUnit (16 * (c.toNat / 16) + c.toNat % 16) = ⟨.ok (c :: read), none⟩ := by
    rw [Nat.div_add_mod, Quoted.pushUnit, if_neg (by omega), if_neg (by omega), Char.ofNat_toNat]
    rfl
  have h0 : step (.quoted q (.unit 0 (c.toNat / 16))) (some (hexDigit (c.toNat % 16)))
      = ⟨[], some (inside (c :: read))⟩ := by
    simp only [step, stepQuoted, Option.bind_some,
      hexValue?_hexDigit _ (show c.toNat % 16 < 16 by omega), hpush, inside]
  rw [lexFrom_cons hback, lexFrom_cons hu, lexFrom_cons h3, lexFrom_cons h2, lexFrom_cons h1,
    lexFrom_cons h0]
  rfl

theorem lexFrom_escapeChar (c : Char) (read : List Char) (out : List Token)
    (rest : List (Option Char)) :
    lexFrom (inside read) out ((escapeChar c).map some ++ rest)
      = lexFrom (inside (c :: read)) out rest := by
  unfold escapeChar
  split
  · next h => subst h; exact lexFrom_escaped (by decide) (by decide)
  split
  · next h => subst h; exact lexFrom_escaped (by decide) (by decide)
  split
  · next h => subst h; exact lexFrom_escaped (by decide) (by decide)
  split
  · next h => subst h; exact lexFrom_escaped (by decide) (by decide)
  split
  · next h => subst h; exact lexFrom_escaped (by decide) (by decide)
  split
  · next h =>
    have hc : c = Char.ofNat 8 := by rw [← h, Char.ofNat_toNat]
    subst hc
    exact lexFrom_escaped (by decide) (by decide)
  split
  · next h =>
    have hc : c = Char.ofNat 12 := by rw [← h, Char.ofNat_toNat]
    subst hc
    exact lexFrom_escaped (by decide) (by decide)
  split
  · next h => exact lexFrom_unit h
  · next hquote hback _ _ _ _ _ hcontrol => exact lexFrom_self hquote hback hcontrol

theorem lexFrom_escapeChars (cs read : List Char) (out : List Token) (rest : List (Option Char)) :
    lexFrom (inside read) out ((cs.flatMap escapeChar).map some ++ rest)
      = lexFrom (inside (cs.reverse ++ read)) out rest := by
  induction cs generalizing read with
  | nil => rfl
  | cons c cs ih =>
    rw [List.flatMap_cons, List.map_append, List.append_assoc, lexFrom_escapeChar, ih,
      List.reverse_cons, List.append_assoc, List.singleton_append]

/-- A string between its quotes is one word. -/
theorem lexFrom_quote (s : String) (out : List Token) (rest : List (Option Char)) :
    lexFrom .between out ((quote s).map some ++ rest)
      = lexFrom .between (.string (.text s) :: out) rest := by
  have hopen : step .between (some '"') = ⟨[], some (inside [])⟩ := rfl
  have hclose : step (inside s.toList.reverse) (some '"')
      = ⟨[.string (.text s)], some .between⟩ := by
    simp only [inside, step, stepQuoted, if_true, Quoted.close, List.reverse_reverse,
      String.ofList_toList]
  rw [quote, List.map_cons, List.cons_append, lexFrom_cons hopen, List.nil_append,
    List.map_append, List.append_assoc, lexFrom_escapeChars, List.append_nil, List.map_singleton,
    List.singleton_append, lexFrom_cons hclose, List.singleton_append]

/-! ## Values -/

theorem lexFrom_single {c : Char} {t : Token} {out : List Token} {rest : List (Option Char)}
    (h : stepBetween c = ⟨[t], some .between⟩) :
    lexFrom .between out (some c :: rest) = lexFrom .between (t :: out) rest := by
  have hstep : step .between (some c) = ⟨[t], some .between⟩ := h
  exact lexFrom_cons hstep

theorem lexFrom_null (out : List Token) (rest : List (Option Char)) :
    lexFrom .between out ((chars .null).map some ++ rest) = lexFrom .between (.null :: out) rest :=
  rfl

theorem lexFrom_bool (b : Bool) (out : List Token) (rest : List (Option Char)) :
    lexFrom .between out ((chars (.bool b)).map some ++ rest)
      = lexFrom .between (.bool b :: out) rest := by
  cases b <;> rfl

theorem follows_itemChars (vs : List (Json String)) (rest : List (Option Char)) :
    Follows ((itemChars vs).map some ++ rest) := by
  cases vs with
  | nil => exact follows_cons (Or.inr (Or.inl rfl))
  | cons v vs => exact follows_cons (Or.inl rfl)

theorem follows_memberChars (ms : List (String × Json String)) (rest : List (Option Char)) :
    Follows ((memberChars ms).map some ++ rest) := by
  cases ms with
  | nil => exact follows_cons (Or.inr (Or.inr rfl))
  | cons m ms => exact follows_cons (Or.inl rfl)

theorem lexFrom_key (k : String) (cs : List Char) (out : List Token)
    (rest : List (Option Char)) :
    lexFrom .between out ((quote k ++ ':' :: cs).map some ++ rest)
      = lexFrom .between (.colon :: .string (.text k) :: out) (cs.map some ++ rest) := by
  rw [List.map_append, List.append_assoc, lexFrom_quote, List.map_cons, List.cons_append,
    lexFrom_single (show stepBetween ':' = ⟨[.colon], some .between⟩ from rfl)]

mutual

/-- The text of a value is read as its words. -/
theorem lexFrom_chars (v : Json String) (hv : v.Numeric) (out : List Token)
    (rest : List (Option Char)) (hrest : Follows rest) :
    lexFrom .between out (v.chars.map some ++ rest)
      = lexFrom .between (v.words.reverse ++ out) rest := by
  match v with
  | .null => exact lexFrom_null out rest
  | .bool b => exact lexFrom_bool b out rest
  | .number text => exact lexFrom_numeral hv hrest
  | .string text => exact lexFrom_quote text out rest
  | .array [] => rfl
  | .array (v :: vs) =>
    rw [chars, List.map_cons, List.cons_append,
      lexFrom_single (show stepBetween '[' = ⟨[.openBracket], some .between⟩ from rfl),
      List.map_append, List.append_assoc,
      lexFrom_chars v hv.1 _ _ (follows_itemChars vs rest), lexFrom_itemChars vs hv.2]
    simp [words]
  | .object [] => rfl
  | .object ((k, v) :: ms) =>
    rw [chars, List.map_cons, List.cons_append,
      lexFrom_single (show stepBetween '\x7b' = ⟨[.openBrace], some .between⟩ from rfl),
      lexFrom_key, List.map_append, List.append_assoc,
      lexFrom_chars v hv.1 _ _ (follows_memberChars ms rest), lexFrom_memberChars ms hv.2]
    simp [words]

theorem lexFrom_itemChars (vs : List (Json String)) (hvs : NumericItems vs) (out : List Token)
    (rest : List (Option Char)) :
    lexFrom .between out ((itemChars vs).map some ++ rest)
      = lexFrom .between ((itemWords vs).reverse ++ out) rest := by
  match vs with
  | [] => rfl
  | v :: vs =>
    rw [itemChars, List.map_cons, List.cons_append,
      lexFrom_single (show stepBetween ',' = ⟨[.comma], some .between⟩ from rfl),
      List.map_append, List.append_assoc,
      lexFrom_chars v hvs.1 _ _ (follows_itemChars vs rest), lexFrom_itemChars vs hvs.2]
    simp [itemWords]

theorem lexFrom_memberChars (ms : List (String × Json String)) (hms : NumericMembers ms)
    (out : List Token) (rest : List (Option Char)) :
    lexFrom .between out ((memberChars ms).map some ++ rest)
      = lexFrom .between ((memberWords ms).reverse ++ out) rest := by
  match ms with
  | [] => rfl
  | (k, v) :: ms =>
    rw [memberChars, List.map_cons, List.cons_append,
      lexFrom_single (show stepBetween ',' = ⟨[.comma], some .between⟩ from rfl),
      lexFrom_key, List.map_append, List.append_assoc,
      lexFrom_chars v hms.1 _ _ (follows_memberChars ms rest), lexFrom_memberChars ms hms.2]
    simp [memberWords]

end

theorem lex_chars {v : Json String} (hv : v.Numeric) : lex (v.chars.map some) = v.words := by
  have h := lexFrom_chars v hv [] [] (Or.inl rfl)
  rw [List.append_nil, List.append_nil] at h
  rw [lex, h, lexFrom, List.reverse_reverse]

/-! ## From words to the value -/

/-- A value as it is read, if it was written like this. -/
def asRead (v : Json String) : Read := v.map Spelling.text

/-- The building goes on behind a word. -/
def goOn (p : Progress) (rest : List Token) : Option (Read × List Token) :=
  match p with
  | .more stack expecting => build stack expecting rest
  | .finished v => some (v, rest)
  | .wrong => none

theorem build_cons (stack : List Frame) (expecting : Expecting) (t : Token) (rest : List Token) :
    build stack expecting (t :: rest) = goOn (advance stack expecting t) rest := by
  rw [build]
  rfl

/-- A value never begins with a closing bracket, so the first item of an array
is like any other value. -/
theorem build_firstItem (v : Json String) (stack : List Frame) (rest : List Token) :
    build stack .firstItem (v.words ++ rest) = build stack .value (v.words ++ rest) := by
  cases v with
  | array items => cases items <;> simp only [words, List.cons_append, build_cons, advance]
  | object members => cases members <;> simp only [words, List.cons_append, build_cons, advance]
  | _ => simp only [words, List.cons_append, build_cons, advance]

mutual

/-- The words of a value build it, and it goes where a value is due. -/
theorem build_words (v : Json String) (stack : List Frame) (rest : List Token) :
    build stack .value (v.words ++ rest) = goOn (complete v.asRead stack) rest := by
  match v with
  | .null | .bool _ | .number _ | .string _ => rfl
  | .array [] => rfl
  | .array (v :: vs) =>
    rw [words, List.cons_append, build_cons, List.append_assoc]
    calc build (.array [] :: stack) .firstItem (v.words ++ (itemWords vs ++ rest))
        = build (.array [] :: stack) .value (v.words ++ (itemWords vs ++ rest)) :=
          build_firstItem v _ _
      _ = build (.array [v.asRead] :: stack) .separator (itemWords vs ++ rest) :=
          build_words v _ _
      _ = goOn (complete (.array (v.asRead :: mapItems Spelling.text vs)) stack) rest :=
          build_itemWords vs [v.asRead] stack rest
  | .object [] => rfl
  | .object ((k, v) :: ms) =>
    rw [words, List.cons_append, build_cons, List.cons_append, List.cons_append, List.append_assoc]
    calc build (.member [] (.text k) :: stack) .value (v.words ++ (memberWords ms ++ rest))
        = build (.object [(.text k, v.asRead)] :: stack) .separator (memberWords ms ++ rest) :=
          build_words v _ _
      _ = goOn (complete (.object ((.text k, v.asRead) :: mapMembers Spelling.text ms)) stack)
            rest := build_memberWords ms [(.text k, v.asRead)] stack rest

theorem build_itemWords (vs : List (Json String)) (items : List Read) (stack : List Frame)
    (rest : List Token) :
    build (.array items :: stack) .separator (itemWords vs ++ rest)
      = goOn (complete (.array (items.reverse ++ mapItems Spelling.text vs)) stack) rest := by
  match vs with
  | [] =>
    rw [itemWords, mapItems, List.append_nil]
    rfl
  | v :: vs =>
    rw [itemWords, List.cons_append, build_cons, List.append_assoc]
    calc build (.array items :: stack) .value (v.words ++ (itemWords vs ++ rest))
        = build (.array (v.asRead :: items) :: stack) .separator (itemWords vs ++ rest) :=
          build_words v _ _
      _ = _ := by
          rw [build_itemWords vs, List.reverse_cons, List.append_assoc, mapItems]
          rfl

theorem build_memberWords (ms : List (String × Json String))
    (members : List (Spelling × Read)) (stack : List Frame) (rest : List Token) :
    build (.object members :: stack) .separator (memberWords ms ++ rest)
      = goOn (complete (.object (members.reverse ++ mapMembers Spelling.text ms)) stack) rest := by
  match ms with
  | [] =>
    rw [memberWords, mapMembers, List.append_nil]
    rfl
  | (k, v) :: ms =>
    rw [memberWords, List.cons_append, build_cons, List.cons_append, List.cons_append,
      List.append_assoc]
    calc build (.member members (.text k) :: stack) .value (v.words ++ (memberWords ms ++ rest))
        = build (.object ((.text k, v.asRead) :: members) :: stack) .separator
            (memberWords ms ++ rest) := build_words v _ _
      _ = _ := by
          rw [build_memberWords ms, List.reverse_cons, List.append_assoc, mapMembers]
          rfl

end

/-- A value that is written is read back, if its numbers are numbers. -/
theorem parse?_chars {v : Json String} (hv : v.Numeric) :
    parse? (v.chars.map some) = some v.asRead := by
  have h := build_words v [] []
  rw [List.append_nil] at h
  rw [parse?, lex_chars hv, h]
  rfl

end TenantAuth.Json
