-- What settings that were read have to do with the variables they were read from.

import TenantAuth.Config
import TenantAuth.Proofs.Program
import TenantAuth.Proofs.Text.Numeral

namespace TenantAuth

open TenantAuth.Text

namespace Config

variable {lookup : Lookup} {key : String}

/-! ## Numbers -/

theorem lt_of_readNumber {n whenAbsent : Nat} (habsent : whenAbsent < UInt64.size)
    (h : readNumber lookup key whenAbsent = .ok n) : n < UInt64.size := by
  unfold readNumber at h
  split at h
  · cases h
    exact habsent
  · split at h
    · next hread =>
      cases h
      exact ((readNumeral_eq_ok_iff (by decide)).1 hread).2
    · cases h

/-- What is read for a number of seconds is not zero, whatever is taken where there is none. -/
theorem pos_of_readSeconds {seconds whenAbsent : UInt64}
    (h : readSeconds lookup key whenAbsent = .ok seconds) : 0 < seconds.toNat := by
  unfold readSeconds at h
  obtain ⟨n, hread, h⟩ := bind_eq_ok_iff.1 h
  have hlt := lt_of_readNumber whenAbsent.toNat_lt hread
  split at h
  · cases h
  · next hne =>
    cases h
    rw [UInt64.toNat_ofNat_of_lt' hlt]
    exact Nat.pos_of_ne_zero hne

/-! ## All settings -/

/-- Each setting is what its variable was read to. -/
structure ReadFrom (lookup : Lookup) (c : Config) : Prop where
  bindAddress : readAddress lookup "BIND_ADDR" default.bindAddress = .ok c.bindAddress
  persistent : readBool lookup "USE_PERSISTENT_STORES" default.persistent = .ok c.persistent
  databaseUrl : readDatabaseUrl lookup = c.databaseUrl
  hosted : ¬ (c.persistent ∧ c.databaseUrl.isNone)
  maxConnections :
    readConnections lookup "DB_MAX_CONNECTIONS" default.maxConnections = .ok c.maxConnections
  stateLifetime :
    readSeconds lookup "OAUTH_STATE_TTL_SECS" default.stateLifetime = .ok c.stateLifetime
  sweepInterval :
    readSeconds lookup "OAUTH_SWEEP_INTERVAL_SECS" default.sweepInterval = .ok c.sweepInterval
  provisionsOwners :
    readBool lookup "AUTO_PROVISION_OWNERS" default.provisionsOwners = .ok c.provisionsOwners

theorem ofLookup_eq_ok_iff {c : Config} : ofLookup lookup = .ok c ↔ ReadFrom lookup c := by
  unfold ofLookup
  constructor
  · intro h
    obtain ⟨bindAddress, hbind, h⟩ := bind_eq_ok_iff.1 h
    obtain ⟨persistent, hpersistent, h⟩ := bind_eq_ok_iff.1 h
    dsimp only at h
    split at h
    · cases h
    · next hhosted =>
      obtain ⟨maxConnections, hmax, h⟩ := bind_eq_ok_iff.1 h
      obtain ⟨stateLifetime, hstate, h⟩ := bind_eq_ok_iff.1 h
      obtain ⟨sweepInterval, hsweep, h⟩ := bind_eq_ok_iff.1 h
      obtain ⟨provisionsOwners, hprovisions, h⟩ := bind_eq_ok_iff.1 h
      cases h
      exact ⟨hbind, hpersistent, rfl, hhosted, hmax, hstate, hsweep, hprovisions⟩
  · rintro ⟨hbind, hpersistent, hurl, hhosted, hmax, hstate, hsweep, hprovisions⟩
    simp only [hbind, hpersistent, hurl, hmax, hstate, hsweep, hprovisions, bind, Except.bind,
      if_neg hhosted]
    rfl

end Config

end TenantAuth
