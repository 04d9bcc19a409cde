-- Principals and organizations come back from their JSON texts as they were written. A text of any
-- other shape that is read as one of them is settled by writing it once: from then on its text
-- stays the same, with the overrides in order and the time in UTC.

import TenantAuth.Principal
import TenantAuth.Proofs.Json.Text
import TenantAuth.Proofs.Time.Rfc3339
import TenantAuth.Proofs.Token.Claims

namespace TenantAuth

/-! ## Times -/

/-- A time is written in UTC, whatever offset it was read with. -/
theorem Timestamp.getLast?_toRfc3339 (t : Timestamp) : t.toRfc3339.toList.getLast? = some 'Z' := by
  unfold toRfc3339
  rw [String.toList_ofList, chars, List.getLast?_append]
  rfl

/-- A record that was read from the text `s` and written as the text `again` tells the same time in
both, and tells it in UTC when it is written. -/
structure Timestamp.InUtc (names : List String) (s again : String) (t : Timestamp) : Prop where
  before : ∃ text, Json.Says names s "created_at" (.string (.text text))
    ∧ ofRfc3339? text = some t
  after : Json.Says names again "created_at" (.string (.text t.toRfc3339))
    ∧ ofRfc3339? t.toRfc3339 = some t ∧ t.toRfc3339.toList.getLast? = some 'Z'

theorem Timestamp.InUtc.of_fields {names : List String} {s again written : String} {t : Timestamp}
    (hbefore : Json.Says names s "created_at" (.string (.text written)))
    (hread : ofRfc3339? written = some t)
    (hafter : Json.Says names again "created_at" (.string (.text t.toRfc3339))) :
    InUtc names s again t :=
  ⟨⟨written, hbefore, hread⟩, hafter, t.ofRfc3339?_toRfc3339, t.getLast?_toRfc3339⟩

/-! ## Principals -/

namespace Principal

def text (p : Principal) : String := p.toJson.render

def ofText? (s : String) : Option Principal := Json.readText ofJson? s

def members (p : Principal) : List (String × Json String) :=
  [("id", .string p.id.toText),
   ("organization_id", .string p.organization.toText),
   ("email", .string p.email),
   ("name", .string p.name),
   ("role", p.role.toJson),
   ("overrides", Json.ofStrings p.overrides.items),
   ("created_at", .string p.createdAt.toRfc3339)]

theorem nodup_names (p : Principal) : (p.members.map (·.1)).Nodup := by
  change fieldNames.Nodup
  decide

theorem numeric_toJson (p : Principal) : p.toJson.Numeric :=
  ⟨trivial, trivial, trivial, trivial, trivial, Json.numeric_ofStrings _, trivial, trivial⟩

theorem ofJson?_toJson (p : Principal) : ofJson? p.toJson.asRead = some p := by
  have hrecord : p.toJson.asRead.record? fieldNames
      = some (p.members.map fun m => some m.2.asRead) := Json.record?_asRead p.nodup_names
  rw [ofJson?, hrecord]
  simp only [members, List.map_cons, List.map_nil, Json.string?_asRead, UserId.ofText?_toText,
    OrganizationId.ofText?_toText, Role.ofJson?_toJson, Json.strings?_ofStrings,
    Timestamp.ofRfc3339?_toRfc3339, TextSet.ofList_items, Option.bind_eq_bind, Option.bind_some]

/-- A principal that is written is read back. -/
theorem ofText?_text (p : Principal) : ofText? p.text = some p := by
  rw [ofText?, text, Json.readText_render p.numeric_toJson, ofJson?_toJson]

theorem says_text (p : Principal) {name : String} {x : Json String} (h : (name, x) ∈ p.members) :
    Json.Says fieldNames p.text name x.asRead :=
  Json.says_render p.nodup_names p.numeric_toJson h

/-- What a text must say of overrides and time to be read as a principal. -/
theorem says_of_ofText? {s : String} {p : Principal} (h : ofText? s = some p) :
    (∃ overrides listed, Json.Says fieldNames s "overrides" overrides
      ∧ overrides.strings? = some listed ∧ p.overrides = .ofList listed)
    ∧ ∃ written, Json.Says fieldNames s "created_at" (.string (.text written))
      ∧ Timestamp.ofRfc3339? written = some p.createdAt := by
  obtain ⟨v, hv, h⟩ := Json.readText_eq_some_iff.1 h
  unfold ofJson? at h
  split at h
  · next id organization email name role overrides createdAt hrecord =>
    rw [Json.record?_eq_some_iff] at hrecord
    simp only [Option.bind_eq_bind, Option.bind_eq_some_iff, Option.some.injEq] at h
    obtain ⟨_, -, _, -, _, -, _, -, _, -, listed, hlisted, t, ⟨written, hwritten, ht⟩, rfl⟩ := h
    rw [Json.string?_eq_some_iff] at hwritten
    subst hwritten
    refine ⟨⟨overrides, listed, ⟨v, _, hv, hrecord, ?_⟩, hlisted, rfl⟩,
      written, ⟨v, _, hv, hrecord, ?_⟩, ht⟩ <;>
    simp [fieldNames]
  · cases h

/-- What becomes of a text that is read as a principal, when the principal is written. -/
structure Settled (s : String) (p : Principal) : Prop where
  /-- From then on the text stays as it is. -/
  again : ∃ q, ofText? p.text = some q ∧ q.text = p.text
  /-- The overrides of the text are written in ascending order, each once. -/
  overrides : ∃ before listed, Json.Says fieldNames s "overrides" before
    ∧ before.strings? = some listed
    ∧ Json.Says fieldNames p.text "overrides" (Json.ofStrings p.overrides.items).asRead
    ∧ p.overrides.items.Pairwise (· < ·)
    ∧ ∀ permission, permission ∈ p.overrides.items ↔ permission ∈ listed
  createdAt : Timestamp.InUtc fieldNames s p.text p.createdAt

theorem settled_of_ofText? {s : String} {p : Principal} (h : ofText? s = some p) :
    p.Settled s := by
  obtain ⟨⟨before, listed, hbefore, hlisted, hoverrides⟩, written, hwritten, ht⟩ :=
    says_of_ofText? h
  have hafter : Json.Says fieldNames p.text "overrides" (Json.ofStrings p.overrides.items).asRead :=
    p.says_text (by simp [members])
  have hutc : Json.Says fieldNames p.text "created_at" (.string (.text p.createdAt.toRfc3339)) :=
    p.says_text (x := .string p.createdAt.toRfc3339) (by simp [members])
  refine ⟨⟨p, p.ofText?_text, rfl⟩, ⟨before, listed, hbefore, hlisted, hafter,
    p.overrides.ascending, fun permission => ?_⟩, .of_fields hwritten ht hutc⟩
  rw [← TextSet.mem_def, hoverrides, TextSet.mem_ofList]

end Principal

/-! ## Organizations -/

namespace Organization

def text (o : Organization) : String := o.toJson.render

def ofText? (s : String) : Option Organization := Json.readText ofJson? s

def ownerJson : Option UserId → Json String
  | some u => .string u.toText
  | none => .null

def members (o : Organization) : List (String × Json String) :=
  [("id", .string o.id.toText),
   ("name", .string o.name),
   ("owner_id", ownerJson o.owner),
   ("subscription_tier", .string o.tier),
   ("max_sub_accounts", Json.ofNat o.maxSubAccounts.toNat),
   ("created_at", .string o.createdAt.toRfc3339)]

theorem toJson_eq (o : Organization) : o.toJson = .object o.members := by
  unfold toJson members ownerJson
  rfl

theorem nodup_names (o : Organization) : (o.members.map (·.1)).Nodup := by
  change fieldNames.Nodup
  decide

theorem numeric_ownerJson (owner : Option UserId) : (ownerJson owner).Numeric := by
  cases owner <;> trivial

theorem numeric_toJson (o : Organization) : o.toJson.Numeric := by
  rw [toJson_eq]
  exact ⟨trivial, trivial, numeric_ownerJson _, trivial, Json.numeric_ofInt o.maxSubAccounts.toNat,
    trivial, trivial⟩

/-- An owner is read back, and so is the lack of one. -/
theorem optional_ownerJson (owner : Option UserId) :
    Json.optional (fun v => v.string?.bind UserId.ofText?) (some (ownerJson owner).asRead)
      = some owner := by
  cases owner with
  | none => rfl
  | some u =>
    have hread : (ownerJson (some u)).asRead = .string (.text u.toText) := rfl
    simp only [hread, Json.optional, Json.string?, Json.Spelling.text?, Option.bind_some,
      UserId.ofText?_toText, Option.map_some]

/-- Every number of thirty-two bits is a quota. -/
theorem quota?_ofNat (n : UInt32) : quota? (Json.ofNat n.toNat).asRead = some n := by
  have hlt := n.toNat_lt
  have hread : (Json.ofNat n.toNat).asRead.int? = some (n.toNat : Int) :=
    Json.int?_ofInt (n := (n.toNat : Int)) (by omega) (by omega)
  rw [quota?, hread, Option.bind_some, if_pos ⟨by omega, by simpa using hlt⟩, Int.toNat_natCast,
    UInt32.ofNat_toNat]

theorem ofJson?_toJson (o : Organization) : ofJson? o.toJson.asRead = some o := by
  have hrecord : o.toJson.asRead.record? fieldNames
      = some (o.members.map fun m => some m.2.asRead) := by
    rw [toJson_eq]
    exact Json.record?_asRead o.nodup_names
  rw [ofJson?, hrecord]
  simp only [members, List.map_cons, List.map_nil, Json.string?_asRead,
    OrganizationId.ofText?_toText, optional_ownerJson, quota?_ofNat,
    Timestamp.ofRfc3339?_toRfc3339, Option.bind_eq_bind, Option.bind_some]

/-- An organization that is written is read back. -/
theorem ofText?_text (o : Organization) : ofText? o.text = some o := by
  rw [ofText?, text, Json.readText_render o.numeric_toJson, ofJson?_toJson]

theorem says_text (o : Organization) {name : String} {x : Json String} (h : (name, x) ∈ o.members) :
    Json.Says fieldNames o.text name x.asRead := by
  have hnumeric := o.numeric_toJson
  rw [toJson_eq] at hnumeric
  rw [text, toJson_eq]
  exact Json.says_render o.nodup_names hnumeric h

/-- What a text must say of the time to be read as an organization. -/
theorem says_of_ofText? {s : String} {o : Organization} (h : ofText? s = some o) :
    ∃ written, Json.Says fieldNames s "created_at" (.string (.text written))
      ∧ Timestamp.ofRfc3339? written = some o.createdAt := by
  obtain ⟨v, hv, h⟩ := Json.readText_eq_some_iff.1 h
  unfold ofJson? at h
  split at h
  · next id name owner tier quota createdAt hrecord =>
    rw [Json.record?_eq_some_iff] at hrecord
    simp only [Option.bind_eq_bind, Option.bind_eq_some_iff, Option.some.injEq] at h
    obtain ⟨_, -, _, -, _, -, _, -, _, -, t, ⟨written, hwritten, ht⟩, rfl⟩ := h
    rw [Json.string?_eq_some_iff] at hwritten
    subst hwritten
    refine ⟨written, ⟨v, _, hv, hrecord, ?_⟩, ht⟩
    simp [fieldNames]
  · cases h

/-- What becomes of a text that is read as an organization, when the organization is written. -/
structure Settled (s : String) (o : Organization) : Prop where
  /-- From then on the text stays as it is. -/
  again : ∃ q, ofText? o.text = some q ∧ q.text = o.text
  createdAt : Timestamp.InUtc fieldNames s o.text o.createdAt

theorem settled_of_ofText? {s : String} {o : Organization} (h : ofText? s = some o) :
    o.Settled s := by
  obtain ⟨written, hwritten, ht⟩ := says_of_ofText? h
  have hutc : Json.Says fieldNames o.text "created_at" (.string (.text o.createdAt.toRfc3339)) :=
    o.says_text (x := .string o.createdAt.toRfc3339) (by simp [members])
  exact ⟨⟨o, o.ofText?_text, rfl⟩, .of_fields hwritten ht hutc⟩

end Organization

/-! ## Both -/

/-- Principals and organizations come back from their texts. Any other text that is read as one of
them is settled by writing it once. -/
theorem principals_and_organizations_survive_their_texts :
    (∀ p : Principal, Principal.ofText? p.text = some p)
      ∧ (∀ o : Organization, Organization.ofText? o.text = some o)
      ∧ (∀ s p, Principal.ofText? s = some p → p.Settled s)
      ∧ ∀ s o, Organization.ofText? s = some o → o.Settled s :=
  ⟨Principal.ofText?_text, Organization.ofText?_text,
    fun _ _ h => Principal.settled_of_ofText? h,
    fun _ _ h => Organization.settled_of_ofText? h⟩

/-- A text with a repeated override and a time east of Greenwich. -/
def Principal.unsettledText : String :=
  "[\"00000000-0000-0000-0000-000000000007\",\"00000000-0000-0000-0000-000000000001\"," ++
    "\"a@example.com\",\"A\",\"admin\",[\"read:org\",\"create:org\",\"read:org\"]," ++
    "\"2024-03-01T01:30:00+02:00\"]"

def Principal.unsettled : Principal :=
  ⟨⟨.ofNat 7⟩, ⟨.ofNat 1⟩, "a@example.com", "A", .admin,
    .ofList ["create:org", "read:org"], .ofInstant ⟨1709249400000000000, by decide, by decide⟩⟩

/-- A text out of order, of an organization without an owner, with a time west of Greenwich. -/
def Organization.unsettledText : String :=
  "\x7b\"created_at\":\"+10000-01-01 00:00:00.5 -01:00\",\"max_sub_accounts\":5,\"note\":[]," ++
    "\"subscription_tier\":\"free\",\"name\":\"A \\\"B\\\"\"," ++
    "\"id\":\"00000000000000000000000000000001\"\x7d"

def Organization.unsettled : Organization :=
  ⟨⟨.ofNat 1⟩, "A \"B\"", none, "free", 5, .ofInstant ⟨253402304400500000000, by decide, by decide⟩⟩

theorem unsettled_texts_are_settled :
    (Principal.ofText? Principal.unsettledText = some Principal.unsettled
        ∧ Principal.unsettled.Settled Principal.unsettledText)
      ∧ Organization.ofText? Organization.unsettledText = some Organization.unsettled
        ∧ Organization.unsettled.Settled Organization.unsettledText := by
  have hprincipal : Principal.ofText? Principal.unsettledText = some Principal.unsettled := by
    decide +kernel
  have horganization :
      Organization.ofText? Organization.unsettledText = some Organization.unsettled := by
    decide +kernel
  obtain ⟨-, -, hsettled, hsettled'⟩ := principals_and_organizations_survive_their_texts
  exact ⟨⟨hprincipal, hsettled _ _ hprincipal⟩, horganization, hsettled' _ _ horganization⟩

end TenantAuth
