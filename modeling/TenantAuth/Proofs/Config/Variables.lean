-- Which settings the variables describe, and which variable is at fault where they describe none.
-- Each variable is judged by its own text; only the address of a database is asked for by another.

import TenantAuth.Proofs.Config
import TenantAuth.Proofs.Text.Trim

namespace TenantAuth.Config

open TenantAuth.Text

/-- A variable that is read; the order is the one in which they are judged. -/
inductive Variable where
  | bindAddress
  | persistent
  | databaseUrl
  | maxConnections
  | stateLifetime
  | sweepInterval
  | provisionsOwners

namespace Variable

def name : Variable → String
  | bindAddress => "BIND_ADDR"
  | persistent => "USE_PERSISTENT_STORES"
  | databaseUrl => "DATABASE_URL"
  | maxConnections => "DB_MAX_CONNECTIONS"
  | stateLifetime => "OAUTH_STATE_TTL_SECS"
  | sweepInterval => "OAUTH_SWEEP_INTERVAL_SECS"
  | provisionsOwners => "AUTO_PROVISION_OWNERS"

def all : List Variable :=
  [bindAddress, persistent, databaseUrl, maxConnections, stateLifetime, sweepInterval,
    provisionsOwners]

end Variable

/-! ## What a text says -/

/-- A text is the address of a socket; nothing may stand around it. -/
def Addresses (text : String) (a : SocketAddress) : Prop := SocketAddress.ofText? text = some a

/-- A text spells yes or no, whatever blanks stand around it and whatever the case of its letters;
nothing at all is no. -/
def Spells (text : String) (b : Bool) : Prop :=
  ∃ cs, Trims text.toList cs ∧ String.ofList (cs.map Char.toLower) ∈
    if b then ["1", "true", "yes", "on"] else ["0", "false", "no", "off", ""]

/-- A text is a whole number with nothing but blanks around it. -/
def Counts (text : String) (n : Nat) : Prop := ∃ cs, Trims text.toList cs ∧ Writes cs n

/-- A text is a number of connections. -/
def Allots (text : String) (n : UInt32) : Prop := Counts text n.toNat

/-- A text is a number of seconds, at least one. -/
def Lasts (text : String) (n : UInt64) : Prop := Counts text n.toNat ∧ 0 < n.toNat

/-- There is nothing in a text but blanks. -/
def Blank (text : String) : Prop := ∀ c ∈ text.toList, isBlank c = true

/-! ## What is described -/

section

variable {α : Type}

/-- A variable that is set says something. -/
def Readable (value? : Option String) (Says : String → α → Prop) : Prop :=
  ∀ text, value? = some text → ∃ a, Says text a

/-- A variable gives what it says, or what is usual where it is not set. -/
def Gives (value? : Option String) (usual : α) (Says : String → α → Prop) (a : α) : Prop :=
  (value? = none ∧ a = usual) ∨ ∃ text, value? = some text ∧ Says text a

end

/-- The variable is as it should be. -/
def Allows (lookup : Lookup) : Variable → Prop
  | .bindAddress => Readable (lookup "BIND_ADDR") Addresses
  | .persistent => Readable (lookup "USE_PERSISTENT_STORES") Spells
  | .databaseUrl => ∀ text, lookup "USE_PERSISTENT_STORES" = some text → Spells text true →
      ∃ url, lookup "DATABASE_URL" = some url ∧ ¬ Blank url
  | .maxConnections => Readable (lookup "DB_MAX_CONNECTIONS") Allots
  | .stateLifetime => Readable (lookup "OAUTH_STATE_TTL_SECS") Lasts
  | .sweepInterval => Readable (lookup "OAUTH_SWEEP_INTERVAL_SECS") Lasts
  | .provisionsOwners => Readable (lookup "AUTO_PROVISION_OWNERS") Spells

/-- Each setting is what its variable says, or the usual one. -/
structure Describes (lookup : Lookup) (c : Config) : Prop where
  bindAddress : Gives (lookup "BIND_ADDR") (.v4 ⟨0, 0, 0, 0⟩ 8080) Addresses c.bindAddress
  persistent : Gives (lookup "USE_PERSISTENT_STORES") false Spells c.persistent
  /-- The address of the database is kept with all its blanks, unless there is nothing else. -/
  databaseUrl : ∀ url, c.databaseUrl = some url ↔ lookup "DATABASE_URL" = some url ∧ ¬ Blank url
  hosted : c.persistent = true → c.databaseUrl ≠ none
  maxConnections : Gives (lookup "DB_MAX_CONNECTIONS") 10 Allots c.maxConnections
  stateLifetime : Gives (lookup "OAUTH_STATE_TTL_SECS") 300 Lasts c.stateLifetime
  sweepInterval : Gives (lookup "OAUTH_SWEEP_INTERVAL_SECS") 900 Lasts c.sweepInterval
  provisionsOwners : Gives (lookup "AUTO_PROVISION_OWNERS") false Spells c.provisionsOwners

/-! ## What is complained of -/

/-- The text spells neither yes nor no; it is shown without blanks around it, in small letters. -/
def NotSpelt (key text : String) (e : ConfigError) : Prop :=
  ∃ cs, Trims text.toList cs ∧ e = .notBoolean key (String.ofList (cs.map Char.toLower))

/-- The text is no number that is counted with. -/
def NotCounted (key text : String) (e : ConfigError) : Prop :=
  (∃ reason, e = .notNumber key reason) ∧ ¬ ∃ n < UInt64.size, Counts text n

/-- The text is no number of connections: no number, or too large a one. -/
def NotAllotted (key text : String) (e : ConfigError) : Prop :=
  NotCounted key text e ∨ e = .tooLarge key ∧ ∃ n ≥ UInt32.size, Counts text n

/-- The text is no number of seconds: no number, or zero. -/
def NotLasting (key text : String) (e : ConfigError) : Prop :=
  NotCounted key text e ∨ e = .zero key ∧ Counts text 0

/-- The error is about what a variable is set to. -/
def Blames (value? : Option String) (Wrong : String → ConfigError → Prop) (e : ConfigError) : Prop :=
  ∃ text, value? = some text ∧ Wrong text e

/-- What is said of a variable that is not as it should be. -/
def Complains (lookup : Lookup) (e : ConfigError) : Variable → Prop
  | .bindAddress => Blames (lookup "BIND_ADDR") (fun _ e => e = .address) e
  | .persistent => Blames (lookup "USE_PERSISTENT_STORES") (NotSpelt "USE_PERSISTENT_STORES") e
  | .databaseUrl => e = .databaseRequired
  | .maxConnections => Blames (lookup "DB_MAX_CONNECTIONS") (NotAllotted "DB_MAX_CONNECTIONS") e
  | .stateLifetime => Blames (lookup "OAUTH_STATE_TTL_SECS") (NotLasting "OAUTH_STATE_TTL_SECS") e
  | .sweepInterval =>
    Blames (lookup "OAUTH_SWEEP_INTERVAL_SECS") (NotLasting "OAUTH_SWEEP_INTERVAL_SECS") e
  | .provisionsOwners => Blames (lookup "AUTO_PROVISION_OWNERS") (NotSpelt "AUTO_PROVISION_OWNERS") e

/-- The first variable of a list that is not as it should be is complained of. -/
inductive FirstFault (lookup : Lookup) (e : ConfigError) : List Variable → Prop
  | here {v : Variable} {vs : List Variable} :
      ¬ Allows lookup v → Complains lookup e v → FirstFault lookup e (v :: vs)
  | later {v : Variable} {vs : List Variable} :
      Allows lookup v → FirstFault lookup e vs → FirstFault lookup e (v :: vs)

theorem FirstFault.exists_not_allows {lookup : Lookup} {e : ConfigError} {vs : List Variable}
    (h : FirstFault lookup e vs) : ∃ v, ¬ Allows lookup v := by
  induction h with
  | here hnot _ => exact ⟨_, hnot⟩
  | later _ _ ih => exact ih

/-! ## Reading one variable -/

/-- What comes of reading a variable. -/
inductive Reads {α : Type} (value? : Option String) (usual : α) (Says : String → α → Prop)
    (Wrong : String → ConfigError → Prop) : Except ConfigError α → Prop
  | unset : value? = none → Reads value? usual Says Wrong (.ok usual)
  | said {text : String} {a : α} :
      value? = some text → Says text a → Reads value? usual Says Wrong (.ok a)
  | refused {text : String} {e : ConfigError} :
      value? = some text → (∀ a, ¬ Says text a) → Wrong text e → Reads value? usual Says Wrong (.error e)

namespace Reads

variable {α : Type} {value? : Option String} {usual a : α} {Says : String → α → Prop}
  {Wrong : String → ConfigError → Prop} {r : Except ConfigError α} {e : ConfigError}

theorem eq_ok_iff (h : Reads value? usual Says Wrong r)
    (hunique : ∀ text a b, Says text a → Says text b → a = b) :
    r = .ok a ↔ Gives value? usual Says a := by
  unfold Gives
  cases h with
  | unset hnone => simp [hnone, eq_comm]
  | @said text b hsome hb =>
    simp only [hsome, reduceCtorEq, false_and, Option.some.injEq, exists_eq_left', false_or,
      Except.ok.injEq]
    constructor
    · rintro rfl
      exact hb
    · exact hunique text b a hb
  | refused hsome hnot _ => simp [hsome, hnot]

theorem readable (h : Reads value? usual Says Wrong r) (hok : r = .ok a) : Readable value? Says := by
  rintro text htext
  cases h with
  | unset hnone =>
    rw [hnone] at htext
    cases htext
  | said hsome hb =>
    cases hsome.symm.trans htext
    exact ⟨_, hb⟩
  | refused => cases hok

theorem blamed (h : Reads value? usual Says Wrong r) (herror : r = .error e) :
    ¬ Readable value? Says ∧ Blames value? Wrong e := by
  cases h with
  | unset => cases herror
  | said => cases herror
  | refused hsome hnot hwrong =>
    cases herror
    refine ⟨fun hreadable => ?_, _, hsome, hwrong⟩
    obtain ⟨a, ha⟩ := hreadable _ hsome
    exact hnot a ha

end Reads

section

variable (lookup : Lookup) (key : String) {text : String}

/-! ### Addresses -/

theorem addresses_unique (text : String) (a b : SocketAddress) (ha : Addresses text a)
    (hb : Addresses text b) : a = b := Option.some.inj (ha.symm.trans hb)

theorem reads_address (usual : SocketAddress) :
    Reads (lookup key) usual Addresses (fun _ e => e = .address) (readAddress lookup key usual) := by
  unfold readAddress
  cases hkey : lookup key with
  | none => exact .unset rfl
  | some text =>
    dsimp only
    split
    · next a hread => exact .said rfl hread
    · next hread =>
      refine .refused rfl (fun a ha => ?_) rfl
      cases hread.symm.trans ha

/-! ### Yes and no -/

theorem bool?_eq_some_iff {spelling : String} {b : Bool} : bool? spelling = some b ↔
    spelling ∈ if b then ["1", "true", "yes", "on"] else ["0", "false", "no", "off", ""] := by
  have hapart : ∀ s ∈ ["0", "false", "no", "off", ""], s ∉ ["1", "true", "yes", "on"] := by decide
  unfold bool?
  by_cases hyes : spelling ∈ ["1", "true", "yes", "on"]
  · have hno := fun h => hapart spelling h hyes
    rw [if_pos hyes]
    cases b with
    | false => exact iff_of_false (by simp) hno
    | true => exact iff_of_true rfl hyes
  · rw [if_neg hyes]
    by_cases hno : spelling ∈ ["0", "false", "no", "off", ""]
    · rw [if_pos hno]
      cases b with
      | false => exact iff_of_true rfl hno
      | true => exact iff_of_false (by simp) hyes
    · rw [if_neg hno]
      cases b with
      | false => exact iff_of_false (by simp) hno
      | true => exact iff_of_false (by simp) hyes

theorem spells_iff {b : Bool} : Spells text b ↔
    bool? (String.ofList ((trimChars text.toList).map Char.toLower)) = some b := by
  unfold Spells
  simp only [trims_iff, exists_eq_left', bool?_eq_some_iff]

theorem spells_unique (text : String) (a b : Bool) (ha : Spells text a) (hb : Spells text b) :
    a = b := Option.some.inj ((spells_iff.1 ha).symm.trans (spells_iff.1 hb))

theorem reads_bool (usual : Bool) :
    Reads (lookup key) usual Spells (NotSpelt key) (readBool lookup key usual) := by
  unfold readBool
  cases hkey : lookup key with
  | none => exact .unset rfl
  | some text =>
    dsimp only
    split
    · next b hread => exact .said rfl (spells_iff.2 hread)
    · next hread =>
      refine .refused rfl (fun b hb => ?_) ⟨_, trims_trimChars _, rfl⟩
      rw [spells_iff.1 hb] at hread
      cases hread

/-! ### Numbers -/

theorem counts_iff {n : Nat} : Counts text n ↔ Writes (trimChars text.toList) n := by
  unfold Counts
  simp only [trims_iff, exists_eq_left']

theorem Counts.unique {n m : Nat} (hn : Counts text n) (hm : Counts text m) : n = m :=
  (counts_iff.1 hn).unique (counts_iff.1 hm)

theorem allots_unique (text : String) (a b : UInt32) (ha : Allots text a) (hb : Allots text b) :
    a = b := UInt32.toNat_inj.1 (Counts.unique ha hb)

theorem lasts_unique (text : String) (a b : UInt64) (ha : Lasts text a) (hb : Lasts text b) :
    a = b := UInt64.toNat_inj.1 (Counts.unique ha.1 hb.1)

theorem reads_number (usual : Nat) : Reads (lookup key) usual
    (fun text n => Counts text n ∧ n < UInt64.size) (NotCounted key) (readNumber lookup key usual) := by
  have hlimit : 0 < UInt64.size := by decide
  unfold readNumber
  cases hkey : lookup key with
  | none => exact .unset rfl
  | some text =>
    dsimp only
    split
    · next n hread =>
      obtain ⟨hwrites, hlt⟩ := (readNumeral_eq_ok_iff hlimit).1 hread
      exact .said rfl ⟨counts_iff.2 hwrites, hlt⟩
    · next reason hread =>
      have hnone := not_writes_of_readNumeral hlimit hread
      refine .refused rfl (fun n hn => hnone ⟨n, hn.2, counts_iff.1 hn.1⟩) ⟨⟨reason, rfl⟩, ?_⟩
      rintro ⟨n, hlt, hcounts⟩
      exact hnone ⟨n, hlt, counts_iff.1 hcounts⟩

theorem reads_connections (usual : UInt32) : Reads (lookup key) usual Allots (NotAllotted key)
    (readConnections lookup key usual) := by
  have hread := reads_number lookup key usual.toNat
  unfold readConnections
  generalize readNumber lookup key usual.toNat = r at hread ⊢
  cases hread with
  | unset hnone =>
    have husual : UInt32.ofNat usual.toNat = usual := UInt32.ofNat_toNat
    simp only [bind, Except.bind, if_pos usual.toNat_lt, husual]
    exact .unset hnone
  | @said text n hsome hcounts =>
    simp only [bind, Except.bind]
    split
    · next hlt =>
      refine .said hsome ?_
      unfold Allots
      rw [UInt32.toNat_ofNat_of_lt' hlt]
      exact hcounts.1
    · next hge =>
      refine .refused hsome (fun m hm => ?_) (Or.inr ⟨rfl, n, Nat.le_of_not_lt hge, hcounts.1⟩)
      rw [Counts.unique hcounts.1 hm] at hge
      exact hge m.toNat_lt
  | refused hsome hnot hwrong =>
    refine .refused hsome (fun m hm => hnot m.toNat ⟨hm, ?_⟩) (Or.inl hwrong)
    exact Nat.lt_trans m.toNat_lt (by decide)

theorem reads_seconds (usual : UInt64) (husual : usual ≠ 0) :
    Reads (lookup key) usual Lasts (NotLasting key) (readSeconds lookup key usual) := by
  have hread := reads_number lookup key usual.toNat
  unfold readSeconds
  generalize readNumber lookup key usual.toNat = r at hread ⊢
  cases hread with
  | unset hnone =>
    have hne : usual.toNat ≠ 0 := fun h => husual (UInt64.toNat_inj.1 h)
    have hsame : UInt64.ofNat usual.toNat = usual := UInt64.ofNat_toNat
    simp only [bind, Except.bind, if_neg hne, hsame]
    exact .unset hnone
  | @said text n hsome hcounts =>
    simp only [bind, Except.bind]
    split
    · next hzero =>
      rw [hzero] at hcounts
      refine .refused hsome (fun m hm => ?_) (Or.inr ⟨rfl, hcounts.1⟩)
      have hsame := Counts.unique hcounts.1 hm.1
      have hpos := hm.2
      omega
    · next hne =>
      refine .said hsome ?_
      unfold Lasts
      rw [UInt64.toNat_ofNat_of_lt' hcounts.2]
      exact ⟨hcounts.1, Nat.pos_of_ne_zero hne⟩
  | refused hsome hnot hwrong =>
    exact .refused hsome (fun m hm => hnot m.toNat ⟨hm.1, m.toNat_lt⟩) (Or.inl hwrong)

end

/-! ### The address of the database -/

theorem readDatabaseUrl_eq_some_iff {lookup : Lookup} {url : String} :
    readDatabaseUrl lookup = some url ↔ lookup "DATABASE_URL" = some url ∧ ¬ Blank url := by
  unfold readDatabaseUrl Blank
  rw [Option.filter_eq_some_iff, ← trimChars_eq_nil_iff]
  simp

/-! ## Reading all of them -/

theorem describes_iff {lookup : Lookup} {c : Config} : Describes lookup c ↔ ReadFrom lookup c := by
  have hurl : (∀ url, c.databaseUrl = some url ↔ lookup "DATABASE_URL" = some url ∧ ¬ Blank url) ↔
      readDatabaseUrl lookup = c.databaseUrl := by
    simp only [← readDatabaseUrl_eq_some_iff]
    constructor
    · exact fun h => Option.ext fun url => (h url).symm
    · rintro h url
      rw [h]
  have haddress := reads_address lookup "BIND_ADDR" default.bindAddress
  have hpersistent := reads_bool lookup "USE_PERSISTENT_STORES" default.persistent
  have hconnections := reads_connections lookup "DB_MAX_CONNECTIONS" default.maxConnections
  have hstate := reads_seconds lookup "OAUTH_STATE_TTL_SECS" default.stateLifetime (by decide)
  have hsweep := reads_seconds lookup "OAUTH_SWEEP_INTERVAL_SECS" default.sweepInterval (by decide)
  have hprovisions := reads_bool lookup "AUTO_PROVISION_OWNERS" default.provisionsOwners
  constructor
  · intro h
    refine ⟨(haddress.eq_ok_iff addresses_unique).2 h.bindAddress,
      (hpersistent.eq_ok_iff spells_unique).2 h.persistent, hurl.1 h.databaseUrl, ?_,
      (hconnections.eq_ok_iff allots_unique).2 h.maxConnections,
      (hstate.eq_ok_iff lasts_unique).2 h.stateLifetime,
      (hsweep.eq_ok_iff lasts_unique).2 h.sweepInterval,
      (hprovisions.eq_ok_iff spells_unique).2 h.provisionsOwners⟩
    simpa using h.hosted
  · intro h
    refine ⟨(haddress.eq_ok_iff addresses_unique).1 h.bindAddress,
      (hpersistent.eq_ok_iff spells_unique).1 h.persistent, hurl.2 h.databaseUrl, ?_,
      (hconnections.eq_ok_iff allots_unique).1 h.maxConnections,
      (hstate.eq_ok_iff lasts_unique).1 h.stateLifetime,
      (hsweep.eq_ok_iff lasts_unique).1 h.sweepInterval,
      (hprovisions.eq_ok_iff spells_unique).1 h.provisionsOwners⟩
    simpa using h.hosted

/-- Settings that are described allow every variable. -/
theorem Describes.allows {lookup : Lookup} {c : Config} (h : Describes lookup c) (v : Variable) :
    Allows lookup v := by
  have hread := describes_iff.1 h
  cases v with
  | bindAddress => exact (reads_address _ _ _).readable hread.bindAddress
  | persistent => exact (reads_bool _ _ _).readable hread.persistent
  | databaseUrl =>
    rintro text htext hspells
    have hpersistent : c.persistent = true := by
      rcases h.persistent with ⟨hnone, -⟩ | ⟨text', htext', hspells'⟩
      · cases hnone.symm.trans htext
      · cases htext'.symm.trans htext
        exact spells_unique _ _ _ hspells' hspells
    obtain ⟨url, hurl⟩ := Option.ne_none_iff_exists'.1 (h.hosted hpersistent)
    exact ⟨url, (h.databaseUrl url).1 hurl⟩
  | maxConnections => exact (reads_connections _ _ _).readable hread.maxConnections
  | stateLifetime => exact (reads_seconds _ _ _ (by decide)).readable hread.stateLifetime
  | sweepInterval => exact (reads_seconds _ _ _ (by decide)).readable hread.sweepInterval
  | provisionsOwners => exact (reads_bool _ _ _).readable hread.provisionsOwners

/-- The address of a database is wanted and missing. -/
theorem not_allows_databaseUrl {lookup : Lookup} {persistent : Bool}
    (hread : readBool lookup "USE_PERSISTENT_STORES" default.persistent = .ok persistent)
    (hmissing : persistent ∧ (readDatabaseUrl lookup).isNone) : ¬ Allows lookup .databaseUrl := by
  obtain ⟨rfl, hnone⟩ := hmissing
  intro hallows
  rcases ((reads_bool _ _ _).eq_ok_iff spells_unique).1 hread with ⟨-, hfalse⟩ | ⟨text, htext, hspells⟩
  · cases hfalse
  · obtain ⟨url, hurl⟩ := hallows text htext hspells
    rw [readDatabaseUrl_eq_some_iff.2 hurl] at hnone
    cases hnone

/-- An address that is not wanted is not missed. -/
theorem allows_databaseUrl {lookup : Lookup} {persistent : Bool}
    (hread : readBool lookup "USE_PERSISTENT_STORES" default.persistent = .ok persistent)
    (hfound : ¬ (persistent ∧ (readDatabaseUrl lookup).isNone)) : Allows lookup .databaseUrl := by
  rintro text htext hspells
  rcases ((reads_bool _ _ _).eq_ok_iff spells_unique).1 hread with ⟨hunset, -⟩ | ⟨text', htext', hspells'⟩
  · cases hunset.symm.trans htext
  · cases htext'.symm.trans htext
    cases spells_unique _ _ _ hspells' hspells
    cases hurl : readDatabaseUrl lookup with
    | none => simp [hurl] at hfound
    | some url => exact ⟨url, readDatabaseUrl_eq_some_iff.1 hurl⟩

/-- The variables are judged one after the other, and the first that is wrong decides. -/
theorem firstFault_of_error {lookup : Lookup} {e : ConfigError} (h : ofLookup lookup = .error e) :
    FirstFault lookup e Variable.all := by
  unfold ofLookup at h
  rcases bind_eq_error_iff.1 h with hread | ⟨bindAddress, hread, h⟩
  · obtain ⟨hnot, hblames⟩ := (reads_address _ _ _).blamed hread
    exact .here hnot hblames
  refine .later ((reads_address _ _ _).readable hread) ?_
  rcases bind_eq_error_iff.1 h with hread | ⟨persistent, hpersistent, h⟩
  · obtain ⟨hnot, hblames⟩ := (reads_bool _ _ _).blamed hread
    exact .here hnot hblames
  refine .later ((reads_bool _ _ _).readable hpersistent) ?_
  dsimp only at h
  split at h
  · next hmissing =>
    cases h
    exact .here (not_allows_databaseUrl hpersistent hmissing) rfl
  next hfound =>
  refine .later (allows_databaseUrl hpersistent hfound) ?_
  rcases bind_eq_error_iff.1 h with hread | ⟨maxConnections, hread, h⟩
  · obtain ⟨hnot, hblames⟩ := (reads_connections _ _ _).blamed hread
    exact .here hnot hblames
  refine .later ((reads_connections _ _ _).readable hread) ?_
  rcases bind_eq_error_iff.1 h with hread | ⟨stateLifetime, hread, h⟩
  · obtain ⟨hnot, hblames⟩ := (reads_seconds _ _ _ (by decide)).blamed hread
    exact .here hnot hblames
  refine .later ((reads_seconds _ _ _ (by decide)).readable hread) ?_
  rcases bind_eq_error_iff.1 h with hread | ⟨sweepInterval, hread, h⟩
  · obtain ⟨hnot, hblames⟩ := (reads_seconds _ _ _ (by decide)).blamed hread
    exact .here hnot hblames
  refine .later ((reads_seconds _ _ _ (by decide)).readable hread) ?_
  rcases bind_eq_error_iff.1 h with hread | ⟨provisionsOwners, -, h⟩
  · obtain ⟨hnot, hblames⟩ := (reads_bool _ _ _).blamed hread
    exact .here hnot hblames
  · cases h

/-! ## What is looked up -/

section

variable {lookup lookup' : Lookup} {key : String}

theorem readAddress_congr (h : lookup' key = lookup key) (usual : SocketAddress) :
    readAddress lookup' key usual = readAddress lookup key usual := by
  unfold readAddress
  rw [h]

theorem readBool_congr (h : lookup' key = lookup key) (usual : Bool) :
    readBool lookup' key usual = readBool lookup key usual := by
  unfold readBool
  rw [h]

theorem readNumber_congr (h : lookup' key = lookup key) (usual : Nat) :
    readNumber lookup' key usual = readNumber lookup key usual := by
  unfold readNumber
  rw [h]

theorem readConnections_congr (h : lookup' key = lookup key) (usual : UInt32) :
    readConnections lookup' key usual = readConnections lookup key usual := by
  unfold readConnections
  rw [readNumber_congr h]

theorem readSeconds_congr (h : lookup' key = lookup key) (usual : UInt64) :
    readSeconds lookup' key usual = readSeconds lookup key usual := by
  unfold readSeconds
  rw [readNumber_congr h]

theorem readDatabaseUrl_congr (h : lookup' "DATABASE_URL" = lookup "DATABASE_URL") :
    readDatabaseUrl lookup' = readDatabaseUrl lookup := by
  unfold readDatabaseUrl
  rw [h]

/-- Nothing is looked up but the seven variables. -/
theorem ofLookup_congr (h : ∀ v : Variable, lookup' v.name = lookup v.name) :
    ofLookup lookup' = ofLookup lookup := by
  have haddress : lookup' "BIND_ADDR" = lookup "BIND_ADDR" := h .bindAddress
  have hpersistent : lookup' "USE_PERSISTENT_STORES" = lookup "USE_PERSISTENT_STORES" := h .persistent
  have hconnections : lookup' "DB_MAX_CONNECTIONS" = lookup "DB_MAX_CONNECTIONS" := h .maxConnections
  have hstate : lookup' "OAUTH_STATE_TTL_SECS" = lookup "OAUTH_STATE_TTL_SECS" := h .stateLifetime
  have hsweep : lookup' "OAUTH_SWEEP_INTERVAL_SECS" = lookup "OAUTH_SWEEP_INTERVAL_SECS" :=
    h .sweepInterval
  have hprovisions : lookup' "AUTO_PROVISION_OWNERS" = lookup "AUTO_PROVISION_OWNERS" :=
    h .provisionsOwners
  unfold ofLookup
  rw [readAddress_congr haddress, readBool_congr hpersistent,
    readDatabaseUrl_congr (h .databaseUrl), readConnections_congr hconnections,
    readSeconds_congr hstate, readSeconds_congr hsweep, readBool_congr hprovisions]

end

/-- The variables give settings exactly if each of them is as it should be, and the settings are
what the variables say. Otherwise the first variable that is wrong is named. Nothing else that may
be looked up counts. -/
theorem settings_are_given_by_their_variables (lookup : Lookup) :
    ((∃ c, ofLookup lookup = .ok c) ↔ ∀ v, Allows lookup v) ∧
    (∀ c, ofLookup lookup = .ok c ↔ Describes lookup c) ∧
    (∀ e, ofLookup lookup = .error e → FirstFault lookup e Variable.all) ∧
    ∀ lookup' : Lookup, (∀ v : Variable, lookup' v.name = lookup v.name) →
      ofLookup lookup' = ofLookup lookup := by
  have hdescribes : ∀ c, ofLookup lookup = .ok c ↔ Describes lookup c := fun c =>
    ofLookup_eq_ok_iff.trans describes_iff.symm
  refine ⟨⟨?_, fun hall => ?_⟩, hdescribes, fun e => firstFault_of_error, fun _ => ofLookup_congr⟩
  · rintro ⟨c, hc⟩
    exact ((hdescribes c).1 hc).allows
  · cases hread : ofLookup lookup with
    | ok c => exact ⟨c, rfl⟩
    | error e =>
      obtain ⟨v, hv⟩ := (firstFault_of_error hread).exists_not_allows
      exact absurd (hall v) hv

/-- Persistent stores without an address for them, and no seconds for a login. -/
def hasty : Lookup := fun key =>
  if key = "USE_PERSISTENT_STORES" then some " Yes\t"
  else if key = "OAUTH_STATE_TTL_SECS" then some "0"
  else none

/-- An address with a blank before it, and a number of seconds in its longest form. -/
def hosted : Lookup := fun key =>
  if key = "DATABASE_URL" then some " postgres://db"
  else if key = "OAUTH_STATE_TTL_SECS" then some "+060 "
  else none

/-- Of two variables that are wrong the earlier one is named. What is right is read as it is
written, and another variable makes no difference. -/
theorem the_missing_address_is_named_first :
    (ofLookup hasty = .error .databaseRequired ∧
      FirstFault hasty .databaseRequired Variable.all) ∧
    Describes hosted { default with databaseUrl := some " postgres://db", stateLifetime := 60 } ∧
    ofLookup (fun key => if key = "PORT" then some "http" else hosted key) = ofLookup hosted := by
  obtain ⟨-, -, hfault, -⟩ := settings_are_given_by_their_variables hasty
  obtain ⟨-, hdescribes, -, hothers⟩ := settings_are_given_by_their_variables hosted
  have hrefused : ofLookup hasty = .error .databaseRequired := by decide +kernel
  have hread : ofLookup hosted =
      .ok { default with databaseUrl := some " postgres://db", stateLifetime := 60 } := by
    decide +kernel
  refine ⟨⟨hrefused, hfault _ hrefused⟩, (hdescribes _).1 hread, hothers _ fun v => ?_⟩
  have hname : v.name ≠ "PORT" := by cases v <;> decide
  rw [if_neg hname]

end TenantAuth.Config
