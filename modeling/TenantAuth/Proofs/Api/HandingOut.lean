-- What logins and refreshes hand out. The two tokens of one answer belong to one principal and work
-- for as long as they should, and whatever refresh token the principal had before works no more.

import TenantAuth.Proofs.Api.Bearer
import TenantAuth.Proofs.Api.Bodies
import TenantAuth.Proofs.Api.Deeds
import TenantAuth.Proofs.Api.Effects
import TenantAuth.Proofs.Api.Granting

namespace TenantAuth

/-! ## Access tokens -/

namespace Signer

variable {s : Signer} {p : Principal} {token : String} {t now : Instant}

/-- A token that was issued is accepted for fifteen minutes from the second in which it was. -/
theorem verify_of_issue? (hkey : s.key.refusal? = none) (hsound : s.key.Sound) (hepoch : 0 ≤ t.nanos)
    (h : s.issue? p t = some (.ok token)) (hfrom : t ≤ now)
    (hto : now.nanos < t.wholeSecond.nanos + 900 * 1000000000) :
    ∃ c, s.verify token now = .ok c ∧ c.user = p.id ∧ c.organization = p.organization := by
  obtain ⟨c, hclaims, hsign⟩ := Option.map_eq_some_iff.mp h
  obtain ⟨expiry, hexpiry, rfl⟩ := Option.map_eq_some_iff.mp hclaims
  rw [Instant.add?_eq_some_iff, Claims.lifetimeSeconds] at hexpiry
  have hstart : t.wholeSecond.nanos = t.nanos / 1000000000 * 1000000000 := rfl
  obtain ⟨token', hsign', hopen⟩ := sign_then_open hkey hsound
    (c := ⟨p.id, p.organization, p.role, t.wholeSecond, t.wholeSecond, expiry⟩)
    (by simp only; omega) (by simp only; omega)
  cases hsign.symm.trans hsign'
  refine ⟨_, verify_eq_ok_iff.mpr ⟨hopen, ?_, ?_, ?_⟩, rfl, rfl⟩
  all_goals
    simp only [Claims.cut, Instant.lt_def, Instant.le_def, Instant.wholeSecond] at hfrom hto hexpiry ⊢
    omega

end Signer

namespace Authentication

/-- Whoever shows a token that is accepted is let in, as the directory knows the user of the token,
as long as the user has not changed the organization. -/
theorem authenticate_of_verify {signer : Signer} {token : String} {now : Instant} {c : Claims}
    (hverify : signer.verify token now = .ok c) {m : Memory} {q : Principal}
    (hfind : m.directory.users.find? c.user = some q) (horganization : q.organization = c.organization) :
    ((authenticate signer (some ("Bearer " ++ token)) now).run Memory.answer m).1 = some (.ok q) := by
  obtain ⟨hne, hvisible⟩ := Signer.visible_of_open (Signer.verify_eq_ok_iff.mp hverify).1
  have hshows : Shows signer (some ("Bearer " ++ token)) now c := by
    refine ⟨token, rfl, fun hempty => hne ?_, fun hspace => ?_, hverify⟩
    · rw [hempty]
      rfl
    · exact absurd (hvisible ' ' hspace).1 (by decide)
  rw [authenticate_of_shows hshows, principalOf_eq]
  refine congrArg some (verdictOn_eq_ok_iff.mpr ⟨congrArg Except.ok hfind, horganization⟩)

end Authentication

namespace Api

open TenantAuth.Http

variable {s : Service} {supply : Supply} {allowed : SessionCall → Prop} {start : Nat}

/-! ## Secrets that are told apart -/

/-- No two of the secrets that come with the first calls have one hash. -/
def Supply.Distinct (supply : Supply) (n : Nat) : Prop :=
  ∀ i < n, ∀ j < n, Secret.hash (supply.secret i) = Secret.hash (supply.secret j) → i = j

theorem Supply.nodup_map_hash_iff {supply : Supply} {n : Nat} :
    ((List.range n).map fun i => Secret.hash (supply.secret i)).Nodup ↔ supply.Distinct n := by
  rw [List.nodup_map_iff_inj_on List.nodup_range]
  simp only [List.mem_range, Distinct]

instance (supply : Supply) (n : Nat) : Decidable (supply.Distinct n) :=
  decidable_of_iff _ Supply.nodup_map_hash_iff

theorem Supply.Distinct.mono {n n' : Nat} (h : supply.Distinct n') (hle : n ≤ n') :
    supply.Distinct n :=
  fun i hi j hj => h i (hi.trans_le hle) j (hj.trans_le hle)

theorem Supply.Drew.mono {start' n n' : Nat} {hash : String} (h : supply.Drew start n hash)
    (hstart : start' ≤ start) (hle : n ≤ n') : supply.Drew start' n' hash := by
  obtain ⟨k, hk, hlt, heq⟩ := h
  exact ⟨k, hstart.trans hk, hlt.trans_le hle, heq⟩

/-- What was drawn before is not drawn again. -/
theorem Supply.Distinct.not_drew {n : Nat} {hash : String} (h : supply.Distinct n)
    (hbefore : supply.Drew 0 start hash) : ¬ supply.Drew start n hash := by
  rintro ⟨k, hk, hlt, rfl⟩
  obtain ⟨k', -, hlt', heq⟩ := hbefore
  have hsame := h k' (by omega) k hlt heq
  omega

/-! ## What lasts -/

/-- Every session is filed under a secret that was drawn, and the directory is sound. -/
structure Accountable (supply : Supply) (m : Memory) (n : Nat) : Prop where
  sound : m.directory.Sound
  drew : ∀ session ∈ m.sessions.table.values, supply.Drew 0 n session.tokenHash

theorem lasting_accountable : Lasting supply allowed 0 (Accountable supply) where
  later h := ⟨h.sound, fun session hs => (h.drew session hs).mono (Nat.le_refl 0) (Nat.le_succ _)⟩
  sessions _ hdrew hfiled h := by
    refine ⟨h.sound, fun session hs => ?_⟩
    rcases (SessionMemory.passed hfiled _).origin session hs with hs | hnew
    · exact h.drew session hs
    · exact hdrew _ hnew
  directory hstep h := ⟨Directory.sound_step h.sound hstep, h.drew⟩

theorem Reached.inOrder {w : World} (h : Reached s supply w) :
    w.memory.sessions.table.WellFiled ∧ Accountable supply w.memory w.calls := by
  refine lasting_accountable.leads h (Nat.zero_le _) ⟨SessionTable.wellFiled_empty, ?_, ?_⟩
  · exact Directory.inOrder_empty.toSound
  · exact fun _ hs => (List.not_mem_nil hs).elim

/-- Nobody is ever taken out of the directory. -/
theorem lasting_known (u : UserId) :
    Lasting supply allowed start fun m _ => (m.directory.users.find? u).isSome where
  later h := h
  sessions _ _ _ h := h
  directory hstep h := by
    cases hstep with
    | kept hsame => exact hsame ▸ h
    | filed p hfree hput =>
      rw [hput, Keyed.find?_put]
      split
      · rfl
      · exact h

/-- The store of the sessions works as long as no session would end past the calendar. -/
theorem lasting_unlocked (hallowed : ∀ c, allowed c → c.InCalendar) :
    Lasting supply allowed start fun m _ => m.sessions.locked = false where
  later h := h
  sessions hc _ hfiled h := SessionMemory.open_answer hfiled h (hallowed _ hc)
  directory _ h := h

/-- Whoever is found under a hash that was drawn before has been there all the time. -/
theorem lasting_origin {hash : String} (hbefore : supply.Drew 0 start hash) (C : Session → Prop) :
    Lasting supply allowed start fun m n => supply.Distinct n →
      ∀ session ∈ m.sessions.table.values, session.tokenHash = hash → C session where
  later h hdistinct := h (hdistinct.mono (Nat.le_succ _))
  sessions _ hdrew hfiled h hdistinct session hs hhash := by
    rcases (SessionMemory.passed hfiled _).origin session hs with hs | hnew
    · exact h hdistinct session hs hhash
    · exact absurd (hdrew _ hnew) (hhash ▸ hdistinct.not_drew hbefore)
  directory _ h := h

/-- The call does nothing to the session of a user under a hash, and comes before its end. -/
def Spares (user : UserId) (hash : String) (expiry : Int) (c : SessionCall) : Prop :=
  ¬ c.Touches user hash ∧ ∀ now ∈ c.sweepsAt?, now.nanos < expiry

instance (user : UserId) (hash : String) (expiry : Int) (c : SessionCall) :
    Decidable (Spares user hash expiry c) :=
  inferInstanceAs (Decidable (¬ c.Touches user hash ∧ ∀ now ∈ c.sweepsAt?, now.nanos < expiry))

/-- A session stays where it is as long as it is left alone. -/
theorem lasting_session {session : Session} (hbefore : supply.Drew 0 start session.tokenHash) :
    Lasting supply (Spares session.user session.tokenHash session.expiresAt.nanos) start fun m n =>
      supply.Distinct n → session ∈ m.sessions.table.values where
  later h hdistinct := h (hdistinct.mono (Nat.le_succ _))
  sessions hc hdrew hfiled h hdistinct := by
    refine (SessionMemory.passed hfiled _).spared session (h hdistinct) hc.1 ?_ ?_
    · exact fun hnew => hdistinct.not_drew hbefore (hdrew _ hnew)
    · exact fun now hnow => decide_eq_false (Int.not_le.mpr (hc.2 now hnow))
  directory _ h := h

/-! ## The law -/

/-- The user has a session under the secret. -/
def Held (w : World) (secret : String) (user : UserId) : Prop :=
  ∃ session, w.memory.sessions.table.find? (Secret.hash secret) = some session ∧ session.user = user

theorem held_of_owner? {w : World} {secret : String} {now : Instant} {user : UserId}
    (h : w.memory.sessions.table.owner? secret now = some user) : Held w secret user := by
  obtain ⟨session, hfind, huser⟩ := Option.map_eq_some_iff.mp h
  rw [SessionTable.find?_live, Option.filter_eq_some_iff] at hfind
  exact ⟨session, hfind.1, huser⟩

/-- Two tokens that were handed out for a request belong together, and work. -/
structure HandedOut (s : Service) (supply : Supply) (w : World) (r : Request) (w' : World)
    (t : Instant) (p : Principal) (access refresh : String) : Prop where
  known : w'.memory.directory.users.find? p.id = some p
  /-- Whoever shows the access token is taken for the principal as long as the directory has the
  principal in the same organization, for fifteen minutes from the second in which it was issued. -/
  access : ∀ now : Instant, t ≤ now → now.nanos < t.wholeSecond.nanos + 900 * 1000000000 →
    ∀ (m : Memory) q, m.directory.users.find? p.id = some q → q.organization = p.organization →
      ((Authentication.authenticate s.signer (some ("Bearer " ++ access)) now).run
        Memory.answer m).1 = some (.ok q)
  /-- The refresh token stands for the principal for seven days, as long as nobody begins, exchanges
  or takes out a session of theirs. Only a rotation whose session would end past the calendar can
  break the store before. -/
  refresh : ∀ w'' now,
    Leads s supply (Spares p.id (Secret.hash refresh) (t.nanos + Session.lifetime)) w' w'' →
    supply.Distinct w''.calls → now.nanos < t.nanos + Session.lifetime →
    w''.memory.sessions.locked = false ∨ (t.add? (2 * Session.lifetime)).isSome →
      ∃ q, w''.memory.directory.users.find? p.id = some q ∧
        ((Refresh.validate refresh now).run Memory.answer w''.memory).1 = some (.ok q)
  /-- A secret under which the principal had a session at any time before is turned down for good. -/
  replaced : ∀ w₀ secret, Reached s supply w₀ → Leads s supply (fun _ => True) w₀ w →
    Held w₀ secret p.id → ∀ w'', Leads s supply (fun _ => True) w' w'' →
      supply.Distinct w''.calls → Refresh.Dead w''.memory secret
  /-- The identity provider vouched for the email of the principal. -/
  vouched : Leg.callback.Takes r → ∃ code identity, code? r = some code ∧
    ⟨.exchange code, some (.ok identity)⟩ ∈ (s.serve r).asked (World.answer supply) w ∧
    p.email = identity.email
  /-- The secret that was presented found a session of the principal. -/
  presented : Renews r → ∃ form, r.json?.bind SecretForm.ofJson? = some form ∧
    w.memory.sessions.table.owner? form.secret t = some p.id

section

variable {w w' : World} {r : Request} {t : Instant} {p : Principal} {access refresh : String}

theorem inCalendar_of_spares {user : UserId} {hash : String} {c : SessionCall}
    (hcalendar : (t.add? (2 * Session.lifetime)).isSome)
    (h : Spares user hash (t.nanos + Session.lifetime) c) : c.InCalendar := by
  cases c with
  | rotate taken newHash newId now =>
    obtain ⟨last, hlast⟩ := Option.isSome_iff_exists.mp hcalendar
    rw [Instant.add?_eq_some_iff] at hlast
    have hnow := h.2 now rfl
    have hlow := now.start_le
    have hhigh := last.lt_end
    have hend : now.add? Session.lifetime =
        some ⟨now.nanos + Session.lifetime, by omega, by omega⟩ := Instant.add?_eq_some_iff.mpr rfl
    exact Option.isSome_of_eq_some hend
  | _ => trivial

/-- The new secret works until somebody does something to its session. -/
theorem Granted.lasts (h : Granted s supply w.calls w' t p access refresh)
    (hreached : Reached s supply w') {w'' : World} {now : Instant}
    (hleads : Leads s supply (Spares p.id (Secret.hash refresh) (t.nanos + Session.lifetime)) w' w'')
    (hdistinct : supply.Distinct w''.calls) (hnow : now.nanos < t.nanos + Session.lifetime)
    (hunlocked : w''.memory.sessions.locked = false ∨ (t.add? (2 * Session.lifetime)).isSome) :
    ∃ q, w''.memory.directory.users.find? p.id = some q ∧
      ((Refresh.validate refresh now).run Memory.answer w''.memory).1 = some (.ok q) := by
  obtain ⟨session, hfind, huser, hexpiry⟩ := h.filed
  obtain ⟨hfiled, -⟩ := hreached.inOrder
  obtain ⟨hmem, hhash⟩ := hfiled.find?_eq_some_iff.mp hfind
  have hunlocked : w''.memory.sessions.locked = false := hunlocked.elim id fun hcalendar =>
    ((lasting_unlocked fun c => inCalendar_of_spares hcalendar).leads hleads (Nat.zero_le _)
      ⟨hfiled, h.unlocked⟩).2
  have hknown := ((lasting_known p.id).leads hleads (Nat.zero_le _)
    ⟨hfiled, Option.isSome_of_eq_some h.known⟩).2
  obtain ⟨q, hq⟩ := Option.isSome_iff_exists.mp hknown
  have hbefore : supply.Drew 0 w'.calls session.tokenHash :=
    hhash ▸ h.drew.mono (Nat.zero_le _) (Nat.le_refl _)
  rw [← huser, ← hhash, ← hexpiry] at hleads
  obtain ⟨hfiled'', hstays⟩ := (lasting_session hbefore).leads hleads (Nat.le_refl _)
    ⟨hfiled, fun _ => hmem⟩
  have hfind'' := hfiled''.find?_eq_some_iff.mpr ⟨hstays hdistinct, hhash⟩
  have hlive : session.isExpiredAt now = false := by
    refine decide_eq_false ?_
    rw [Instant.le_def]
    omega
  exact ⟨q, hq, Refresh.run_validate_of_filed hunlocked hfind'' hlive (huser ▸ hq)⟩

/-- The principal has one session alone, so those of before are gone, and they do not come back. -/
theorem Granted.replaces (h : Granted s supply w.calls w' t p access refresh)
    (hleads : Leads s supply (fun _ => True) w w') {w₀ w'' : World} {secret : String}
    (hreached : Reached s supply w₀) (hbefore : Leads s supply (fun _ => True) w₀ w)
    (hheld : Held w₀ secret p.id) (hafter : Leads s supply (fun _ => True) w' w'')
    (hdistinct : supply.Distinct w''.calls) : Refresh.Dead w''.memory secret := by
  obtain ⟨old, hold, holder⟩ := hheld
  obtain ⟨hfiled, haccountable⟩ := hreached.inOrder
  obtain ⟨hmem, hhash⟩ := hfiled.find?_eq_some_iff.mp hold
  have hdrew : supply.Drew 0 w₀.calls (Secret.hash secret) := hhash ▸ haccountable.drew old hmem
  have honly : ∀ session ∈ w₀.memory.sessions.table.values,
      session.tokenHash = Secret.hash secret → session = old := fun session hs heq =>
    Option.some.inj ((hfiled.find?_eq_some_iff.mpr ⟨hs, heq⟩).symm.trans hold)
  obtain ⟨hfiled', horigin⟩ := (lasting_origin hdrew (· = old)).leads (hbefore.trans hleads)
    (Nat.le_refl _) ⟨hfiled, fun _ => honly⟩
  -- the new session is the only one that the principal has, and its secret was not there before
  have habsent : ∀ session ∈ w'.memory.sessions.table.values,
      session.tokenHash = Secret.hash secret → False := by
    intro session hs heq
    obtain ⟨new, hnew, huser, -⟩ := h.filed
    obtain ⟨hmem', hhash'⟩ := hfiled'.find?_eq_some_iff.mp hnew
    have hdistinct' := hdistinct.mono hafter.calls_le
    cases horigin hdistinct' session hs heq
    cases hfiled'.eq_of_user_eq hs hmem' (holder.trans huser.symm)
    refine hdistinct'.not_drew hdrew ?_
    rw [← hhash, hhash']
    exact h.drew.mono hbefore.calls_le (Nat.le_refl _)
  obtain ⟨hfiled'', hnone⟩ := (lasting_origin (hdrew.mono (Nat.le_refl 0)
    (hbefore.trans hleads).calls_le) fun _ => False).leads hafter (Nat.le_refl _)
    ⟨hfiled', fun _ => habsent⟩
  refine Refresh.dead_of_absent (Option.eq_none_iff_forall_ne_some.mpr fun session hs => ?_)
  obtain ⟨hs, heq⟩ := hfiled''.find?_eq_some_iff.mp hs
  exact hnone hdistinct session hs heq

theorem handedOut_of_granted (hkey : s.signer.key.refusal? = none) (hsound : s.signer.key.Sound)
    (hreached : Reached s supply w) (hleads : Leads s supply (fun _ => True) w w')
    (hepoch : 0 ≤ t.nanos) (h : Granted s supply w.calls w' t p access refresh)
    (hvouched : Leg.callback.Takes r → ∃ code identity, code? r = some code ∧
      ⟨.exchange code, some (.ok identity)⟩ ∈ (s.serve r).asked (World.answer supply) w ∧
      p.email = identity.email)
    (hpresented : Renews r → ∃ form, r.json?.bind SecretForm.ofJson? = some form ∧
      w.memory.sessions.table.owner? form.secret t = some p.id) :
    HandedOut s supply w r w' t p access refresh where
  known := h.known
  access now hfrom hto m q hfind horganization := by
    obtain ⟨c, hverify, huser, hhome⟩ := Signer.verify_of_issue? hkey hsound hepoch h.issued hfrom hto
    exact Authentication.authenticate_of_verify hverify (huser ▸ hfind) (horganization.trans hhome.symm)
  refresh _ _ hspared hdistinct hnow hunlocked :=
    h.lasts (hreached.trans hleads) hspared hdistinct hnow hunlocked
  replaced _ _ hreached' hbefore hheld _ hafter hdistinct :=
    h.replaces hleads hreached' hbefore hheld hafter hdistinct
  vouched := hvouched
  presented := hpresented

end

/-- However the service came to where it is: a callback or a refresh that is answered with success
hands out two tokens of one principal of the directory. Both work for as long as they should, and
what the principal had before works no more. After a callback it is the principal with the email
that the identity provider vouches for, after a refresh the one whose session was exchanged. -/
theorem tokens_handed_out_belong_together {s : Service} {supply : Supply} {w w' : World}
    {r : Request} {response : Response} {t : Instant} (hkey : s.signer.key.refusal? = none)
    (hsound : s.signer.key.Sound) (hreached : Reached s supply w)
    (hr : Leg.callback.Takes r ∨ Renews r)
    (hrun : (s.serve r).run (World.answer supply) w = (some response, w'))
    (h200 : response.status = 200) (hepoch : 0 ≤ t.nanos)
    (hclock : ∀ n, w.calls ≤ n → n < w'.calls → supply.clock n = t) :
    ∃ p access refresh body, response = .json 200 body ∧ ShowsTokens access refresh body ∧
      HandedOut s supply w r w' t p access refresh := by
  obtain ⟨-, haccountable⟩ := hreached.inOrder
  have hleads : Leads s supply (fun _ => True) w w' := by
    have hdeed : Leads s supply (fun _ => True) w ((Deed.request r).after s supply w) :=
      Leads.refl.deed (.request r)
    rwa [Deed.after, hrun] at hdeed
  rcases hr with hr | hr
  · obtain ⟨p, access, refresh, hresponse, hgranted, code, identity, hcode, hemail, hasked⟩ :=
      granted_of_callback hr haccountable.sound hrun h200 hclock
    refine ⟨p, access, refresh, _, hresponse, showsTokens_tokensJson access refresh,
      handedOut_of_granted hkey hsound hreached hleads hepoch hgranted
        (fun _ => ⟨code, identity, hcode, hasked, hemail⟩) fun hrenews => ?_⟩
    cases hr.1.symm.trans hrenews.1
  · obtain ⟨p, access, refresh, hresponse, hgranted, hpresented⟩ :=
      granted_of_refresh hr haccountable.sound hrun h200 hclock
    refine ⟨p, access, refresh, _, hresponse, showsTokens_tokensJson access refresh,
      handedOut_of_granted hkey hsound hreached hleads hepoch hgranted (fun htakes => ?_)
        fun _ => hpresented⟩
    cases htakes.1.symm.trans hr.1

/-! ## Ann and Bob -/

/-- A supply of which every secret is another one. The clock stands still. -/
def numberedSupply (t : Instant) : Supply :=
  { plainSupply with clock := fun _ => t, secret := fun n => "secret " ++ toString n }

theorem distinct_numberedSupply (t : Instant) : (numberedSupply t).Distinct 15 :=
  have hnoon : (numberedSupply noon).Distinct 15 := by decide +kernel
  hnoon

def bob : Principal := .fresh ⟨.ofNat 6⟩ home "bob@example.org" "Bob" .subAccount noon

/-- Ann and Bob are put into an empty directory, and get a session each. -/
def bothSignedIn (t : Instant) : World :=
  [Deed.insert ann noon, .insert bob noon, .session (.create ann.id t),
    .session (.create bob.id t)].foldl (fun v d => d.after plainService (numberedSupply t) v) .empty

theorem reached_bothSignedIn (t : Instant) :
    Reached plainService (numberedSupply t) (bothSignedIn t) :=
  Leads.refl.deeds _

/-- Ann exchanges the secret of her session. -/
def renewal : Request where
  method := .post
  target := ⟨"/auth/refresh", none⟩
  headers := [("content-type", octets "application/json")]
  body := octets "\x7b\"refresh_token\":\"secret 0\"\x7d"

theorem renews_renewal : Renews renewal := ⟨rfl, rfl⟩

theorem form_renewal : renewal.json?.bind SecretForm.ofJson? = some ⟨"secret 0"⟩ := by
  decide +kernel

/-- The exchange, before the access token is issued. -/
def annsExchange (t : Instant) : Option (Except RefreshError (String × Principal)) × World :=
  (Handler.stores (Refresh.rotate "secret 0" "secret 7" ⟨.ofNat 1⟩ t)).run
    (World.answer (numberedSupply t)) ((bothSignedIn t).spent 3)

theorem run_renewal {t : Instant} {access : String} (hcalls : (bothSignedIn t).calls = 6)
    (hgiven : (annsExchange t).1 = some (.ok ("secret 7", ann)))
    (hissue : plainService.signer.issue? ann t = some (.ok access)) :
    (plainService.serve renewal).run (World.answer (numberedSupply t)) (bothSignedIn t) =
      (some (.json 200 (Service.tokensJson access "secret 7")), (annsExchange t).2.spent 1) := by
  have hseven : "secret " ++ toString (6 + 1) = "secret 7" := by decide
  have hsecret : (numberedSupply t).secret ((bothSignedIn t).calls + 1) = "secret 7" := by
    rw [hcalls]
    exact hseven
  rw [serve_refresh renews_renewal]
  refine run_refresh form_renewal ?_ hissue
  rw [hsecret]
  exact Prod.ext hgiven rfl

theorem ann_exchanges_her_secret :
    ∃ response w', Reached plainService (numberedSupply noon) (bothSignedIn noon) ∧ Renews renewal ∧
      (plainService.serve renewal).run (World.answer (numberedSupply noon)) (bothSignedIn noon) =
        (some response, w') ∧
      response.status = 200 ∧ ∃ p access refresh body,
        response = .json 200 body ∧ ShowsTokens access refresh body ∧
        HandedOut plainService (numberedSupply noon) (bothSignedIn noon) renewal w' noon p access
          refresh ∧
        p.id = ann.id ∧ Held (bothSignedIn noon) "secret 0" p.id ∧
        Refresh.Dead w'.memory "secret 0" ∧
        ((Refresh.validate refresh noon).run Memory.answer w'.memory).1 = some (.ok p) := by
  have hreached := reached_bothSignedIn noon
  have hkey : plainService.signer.key.refusal? = none := Rsa.PrivateKey.refusal?_mersenne
  have hsound : plainService.signer.key.Sound := Rsa.PrivateKey.sound_mersenne
  have hepoch : 0 ≤ noon.nanos := by decide
  obtain ⟨token, -, hissue, -⟩ := Signer.issued_is_accepted hkey hsound ann hepoch (by decide)
  have hrun := run_renewal (by decide +kernel) (by decide +kernel) hissue
  obtain ⟨p, access, refresh, body, hbody, hshows, h⟩ := tokens_handed_out_belong_together hkey
    hsound hreached (Or.inr renews_renewal) hrun rfl hepoch fun _ _ _ => rfl
  have howner : (bothSignedIn noon).memory.sessions.table.owner? "secret 0" noon = some ann.id := by
    decide +kernel
  obtain ⟨form, hform, hpresented⟩ := h.presented renews_renewal
  cases form_renewal.symm.trans hform
  have hid : p.id = ann.id := Option.some.inj (hpresented.symm.trans howner)
  have hheld : Held (bothSignedIn noon) "secret 0" p.id := held_of_owner? hpresented
  have hdistinct : (numberedSupply noon).Distinct ((annsExchange noon).2.spent 1).calls :=
    (distinct_numberedSupply noon).mono (by decide +kernel)
  obtain ⟨q, hq, hvalidate⟩ := h.refresh _ noon .refl hdistinct (by decide) (Or.inr (by decide))
  cases h.known.symm.trans hq
  exact ⟨_, _, hreached, renews_renewal, hrun, rfl, p, access, refresh, body, hbody, hshows, h, hid,
    hheld, h.replaced _ "secret 0" hreached .refl hheld _ .refl hdistinct, hvalidate⟩

/-- Ten days before the calendar ends. -/
def tenDaysLeft : Instant := ⟨8210266012799999999999, by decide, by decide⟩

/-- Five days before the calendar ends. -/
def fiveDaysLeft : Instant := ⟨8210266444799999999999, by decide, by decide⟩

/-- Five days after Ann has exchanged her secret, Bob comes to exchange his. -/
def afterBob : World :=
  (Deed.session (.rotate "secret 3" fiveDaysLeft)).after plainService (numberedSupply tenDaysLeft)
    ((annsExchange tenDaysLeft).2.spent 1)

/-- At the end of the calendar, the secret that Ann got is refused before its seven days are over,
though nobody has done anything to her session. Bob's next session would end past the calendar, so
his exchange breaks down half-way and leaves the store locked. -/
theorem bobs_late_exchange_locks_ann_out :
    plainService.signer.key.refusal? = none ∧ plainService.signer.key.Sound ∧
      Reached plainService (numberedSupply tenDaysLeft) (bothSignedIn tenDaysLeft) ∧ Renews renewal ∧
      0 ≤ tenDaysLeft.nanos ∧ (∀ n, (numberedSupply tenDaysLeft).clock n = tenDaysLeft) ∧
      ∃ access body, plainService.signer.issue? ann tenDaysLeft = some (.ok access) ∧
        ShowsTokens access "secret 7" body ∧
        (plainService.serve renewal).run (World.answer (numberedSupply tenDaysLeft))
          (bothSignedIn tenDaysLeft) =
            (some (.json 200 body), (annsExchange tenDaysLeft).2.spent 1) ∧
        Leads plainService (numberedSupply tenDaysLeft)
          (Spares ann.id (Secret.hash "secret 7") (tenDaysLeft.nanos + Session.lifetime))
          ((annsExchange tenDaysLeft).2.spent 1) afterBob ∧
        (numberedSupply tenDaysLeft).Distinct afterBob.calls ∧ tenDaysLeft ≤ fiveDaysLeft ∧
        fiveDaysLeft.nanos < tenDaysLeft.nanos + Session.lifetime ∧
        ((Refresh.validate "secret 7" fiveDaysLeft).run Memory.answer afterBob.memory).1 =
          some (.error (.store SessionMemory.lockedError)) := by
  have hkey : plainService.signer.key.refusal? = none := Rsa.PrivateKey.refusal?_mersenne
  have hsound : plainService.signer.key.Sound := Rsa.PrivateKey.sound_mersenne
  have hepoch : 0 ≤ tenDaysLeft.nanos := by decide
  obtain ⟨access, -, hissue, -⟩ := Signer.issued_is_accepted hkey hsound ann hepoch (by decide)
  have hrun := run_renewal (by decide +kernel) (by decide +kernel) hissue
  have hspared : ∀ c ∈ (Deed.session (.rotate "secret 3" fiveDaysLeft)).asks plainService
      (numberedSupply tenDaysLeft) ((annsExchange tenDaysLeft).2.spent 1), ∀ sc ∈ c.session?,
        Spares ann.id (Secret.hash "secret 7") (tenDaysLeft.nanos + Session.lifetime) sc := by
    decide +kernel
  have hrefused : ((Refresh.validate "secret 7" fiveDaysLeft).run Memory.answer afterBob.memory).1 =
      some (.error (.store SessionMemory.lockedError)) := by decide +kernel
  exact ⟨hkey, hsound, reached_bothSignedIn tenDaysLeft, renews_renewal, hepoch, fun _ => rfl, access,
    _, hissue, showsTokens_tokensJson access "secret 7", hrun, .step _ .refl hspared,
    (distinct_numberedSupply tenDaysLeft).mono (by decide +kernel), by decide, by decide, hrefused⟩

end Api

end TenantAuth
