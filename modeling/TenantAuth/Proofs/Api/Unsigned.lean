-- What comes of a request when the key does not sign the access token. A callback asks for the
-- token before it begins a session, so it leaves the stores as they were. A refresh asks for it
-- when the exchange is done: the secret presented is used up, and nobody is told the next one.

import TenantAuth.Proofs.Api.HandingOut
import TenantAuth.Proofs.Api.Logins
import TenantAuth.Proofs.Session.Unserved

namespace TenantAuth

/-! ## Whose secrets are left -/

namespace SessionTable

/-- What a secret has belongs to one user for as long as it is there. -/
theorem owner?_unique {t : SessionTable} {secret secret' : String} {start now : Instant}
    {user user' : UserId} (h : t.owner? secret start = some user)
    (h' : t.owner? secret' now = some user') (hhash : Secret.hash secret = Secret.hash secret') :
    user = user' := by
  unfold owner? at h h'
  rw [find?_live, Option.map_eq_some_iff] at h h'
  obtain ⟨s, hs, rfl⟩ := h
  obtain ⟨s', hs', rfl⟩ := h'
  have hfind := (Option.filter_eq_some_iff.mp hs).1
  rw [hhash] at hfind
  cases hfind.symm.trans (Option.filter_eq_some_iff.mp hs').1
  rfl

/-- An exchange leaves its user no secret but the next one, and everybody else what they had. -/
theorem owner?_exchange {t : SessionTable} {presented secret : String} {start now : Instant}
    {session : Session} (howner : t.owner? presented start = some session.user) (hle : start ≤ now)
    (hne : Secret.hash secret ≠ session.tokenHash) :
    (SessionTable.file ((t.live start).erase (Secret.hash presented)) session).owner? secret now =
      (t.owner? secret now).filter (· ≠ session.user) := by
  rw [owner?_file, if_neg hne, owner?_erase, owner?_live t secret hle]
  by_cases hhash : Secret.hash secret = Secret.hash presented
  · rw [if_pos hhash]
    cases hfound : t.owner? secret now with
    | none => rfl
    | some user =>
      rw [owner?_unique howner hfound hhash.symm]
      simp [Option.filter_some]
  · rw [if_neg hhash]

end SessionTable

namespace Api

open TenantAuth.Http

variable {s : Service} {supply : Supply} {w : World} {p : Principal}

/-! ## Signatures that fail -/

/-- The key refuses to sign a token for a principal at that time. -/
def Service.Refuses (s : Service) (p : Principal) (t : Instant) : Prop :=
  ∃ e, s.signer.issue? p t = some (.error e)

/-- What is answered when something fails inside. -/
def internalError : Response := Answer.problem 500 "internal" "internal server error"

theorem refuses_iff {t : Instant} :
    s.Refuses p t ↔ s.signer.key.refusal?.isSome ∧ (Claims.forPrincipal? p t).isSome := by
  unfold Service.Refuses Signer.issue?
  cases Claims.forPrincipal? p t with
  | none => simp
  | some c =>
    cases hkey : s.signer.key.refusal? with
    | none => simp [Signer.sign, Rsa.PrivateKey.sign, hkey]
    | some refusal => simp [Signer.sign, Rsa.PrivateKey.sign, hkey]

theorem signing_of_issue? {t : Instant} {e : TokenError}
    (h : s.signer.issue? p t = some (.error e)) : ∃ text, e = .signing text := by
  obtain ⟨c, -, hsign⟩ := Option.map_eq_some_iff.mp h
  simp only [Signer.sign] at hsign
  split at hsign
  · cases hsign
    exact ⟨_, rfl⟩
  · cases hsign

/-- Where the key refuses, a failure of the inside is answered, and nothing else comes of it. -/
theorem ends_withAccessToken (next : String → Handler Response)
    (h : s.Refuses p (supply.clock w.calls)) :
    Ends supply w (s.withAccessToken p next) fun response w' =>
      response = internalError ∧ w.Kept w' := by
  obtain ⟨e, hissue⟩ := h
  obtain ⟨text, rfl⟩ := signing_of_issue? hissue
  unfold Service.withAccessToken
  rw [Program.bind_eq]
  refine Ends.of_run ?_ (run_ask_andThen (World.answer_clock supply w) _)
  rw [hissue]
  exact ⟨_, _, rfl, rfl, rfl, rfl⟩

/-! ## Callbacks -/

/-- Somebody whom the directory knows comes back from the identity provider, and the state works. -/
structure ComesBack (s : Service) (supply : Supply) (w : World) (r : Request) (p : Principal) :
    Prop where
  takes : Leg.callback.Takes r
  state : ∃ state, state? r = some state ∧
    (LoginStates.consume state (supply.clock w.calls) w.states).1 = true
  provider : s.provider.isSome
  known : ∃ code identity, code? r = some code ∧
    supply.exchange (w.calls + 2) code = .ok identity ∧
    w.memory.directory.findByEmail? identity.email = some p

theorem run_withPrincipal_of_known {identity : Identity} {next : Principal → Handler Response}
    (h : w.memory.directory.findByEmail? identity.email = some p) :
    (s.withPrincipal identity next).run (World.answer supply) w =
      (next p).run (World.answer supply) (w.spent 1) := by
  have hanswer : World.answer supply (.backend (.directory (.findByEmail identity.email))) w =
      (some (.ok (some p)), w.spent 1) := by
    simp only [World.answer, Memory.answer, Directory.answer, h]
    rfl
  exact run_ask_andThen hanswer _

/-- The token is asked for before a session is begun. -/
theorem ends_redeem {code : String} {identity : Identity} (hprovider : s.provider.isSome)
    (hidentity : supply.exchange w.calls code = .ok identity)
    (hknown : w.memory.directory.findByEmail? identity.email = some p)
    (hrefused : s.Refuses p (supply.clock (w.calls + 2))) :
    Ends supply w (s.redeem (some code)) fun response w' =>
      response = internalError ∧ w.Kept w' := by
  obtain ⟨provider, hprovider⟩ := Option.isSome_iff_exists.mp hprovider
  have hexchange : World.answer supply (.exchange code) w = (some (.ok identity), w.spent 1) := by
    rw [← hidentity]
    rfl
  simp only [Service.redeem, hprovider]
  refine Ends.of_run ?_ (Program.run_call_some hexchange)
  refine Ends.of_run ?_ (run_withPrincipal_of_known hknown)
  exact ends_withAccessToken _ hrefused

theorem ends_callback {r : Request} (h : ComesBack s supply w r p)
    (hrefused : s.Refuses p (supply.clock (w.calls + 4))) :
    Ends supply w (s.serve r) fun response w' =>
      response = internalError ∧ w'.memory = w.memory := by
  obtain ⟨state, hstate, hworks⟩ := h.state
  obtain ⟨code, identity, hcode, hidentity, hknown⟩ := h.known
  obtain ⟨v, hconsume, hmemory, hcalls⟩ : ∃ v,
      World.answer supply (.consumeState state (supply.clock w.calls)) (w.spent 1) =
        (some true, v) ∧ v.memory = w.memory ∧ v.calls = w.calls + 2 := by
    rw [← hworks]
    exact ⟨_, rfl, rfl, rfl⟩
  rw [s.serve_callback h.takes, s.callback_of_state hstate]
  refine Ends.of_run ?_ (Program.run_call_some (World.answer_clock supply w))
  refine Ends.of_run ?_ (Program.run_call_some hconsume)
  rw [if_pos rfl, hcode]
  have hends := ends_redeem (w := v) h.provider (by rwa [hcalls]) (by rwa [hmemory])
    (by rwa [hcalls])
  refine hends.imp ?_
  rintro response w' ⟨rfl, hkept, -⟩
  exact ⟨rfl, hkept.trans hmemory⟩

/-! ## Refreshes -/

section

variable {α : Type}

theorem run_stores_session {c : SessionCall} {reply : c.Reply} {sessions : SessionMemory}
    (h : w.memory.sessions.answer c = (some reply, sessions)) (f : c.Reply → BackendProgram α) :
    (Handler.stores (BackendProgram.session c >>= f)).run (World.answer supply) w =
      (Handler.stores (f reply)).run (World.answer supply)
        { w.spent 1 with memory := { w.memory with sessions } } := by
  have hanswer : World.answer supply (.backend (.sessions c)) w =
      (some reply, { w.spent 1 with memory := { w.memory with sessions } }) := by
    simp only [World.answer, Memory.answer, h]
    rfl
  exact run_ask_andThen hanswer _

theorem run_stores_loadUser {user : UserId} (h : w.memory.directory.users.find? user = some p)
    (f : Except RefreshError Principal → BackendProgram α) :
    (Handler.stores (Refresh.loadUser user >>= f)).run (World.answer supply) w =
      (Handler.stores (f (.ok p))).run (World.answer supply) (w.spent 1) := by
  have hanswer : World.answer supply (.backend (.directory (.findById user))) w =
      (some (.ok (some p)), w.spent 1) := by
    simp only [World.answer, Memory.answer, Directory.answer, h]
    rfl
  rw [Refresh.loadUser_bind]
  exact run_ask_andThen hanswer _

/-- A secret that works, of somebody known, is exchanged in two calls. -/
theorem run_stores_rotate {secret : String} {now : Instant}
    (hopen : w.memory.sessions.locked = false)
    (howner : w.memory.sessions.table.owner? secret now = some p.id)
    (hknown : w.memory.directory.users.find? p.id = some p)
    (hcalendar : (now.add? Session.lifetime).isSome) (next : String) (id : SessionId) :
    ∃ session v, Session.fresh? id p.id (Secret.hash next) now = some session ∧
      (Handler.stores (Refresh.rotate secret next id now)).run (World.answer supply) w =
        (some (.ok (next, p)), v) ∧
      v.calls = w.calls + 2 ∧ v.states = w.states ∧
      v.memory = { w.memory with sessions :=
        ⟨SessionTable.file ((w.memory.sessions.table.live now).erase (Secret.hash secret)) session,
          false⟩ } := by
  obtain ⟨consumed, hfind, huser⟩ := Option.map_eq_some_iff.mp howner
  obtain ⟨session, hfresh⟩ := Session.fresh?_of_add? id p.id (Secret.hash next) hcalendar
  refine ⟨session, { w.spent 2 with memory := _ }, hfresh, ?_, rfl, rfl, rfl⟩
  rw [← huser] at hfresh hknown
  have hanswer := Refresh.answer_of_open hopen (SessionTable.answer_rotate_of_found hfind hfresh)
  unfold Refresh.rotate
  rw [run_stores_session hanswer]
  dsimp only
  rw [SessionTable.not_expired_of_find?_live hfind, if_neg Bool.false_ne_true]
  refine (run_stores_loadUser ?_ _).trans rfl
  exact hknown

end

/-- Somebody whom the directory knows presents a secret that works. -/
structure PresentsSecret (supply : Supply) (w : World) (r : Request) (secret : String)
    (p : Principal) : Prop where
  renews : Renews r
  form : r.json?.bind SecretForm.ofJson? = some ⟨secret⟩
  unlocked : w.memory.sessions.locked = false
  owner : w.memory.sessions.table.owner? secret (supply.clock w.calls) = some p.id
  known : w.memory.directory.users.find? p.id = some p
  /-- The calendar reaches seven days on. -/
  inCalendar : ((supply.clock w.calls).add? Session.lifetime).isSome

/-- What an exchange leaves behind of which nobody hears: the user has nothing but the session of
the secret that was drawn for the request, and the others have what they had. -/
structure ExchangedInVain (supply : Supply) (w : World) (presented : String) (user : UserId)
    (w' : World) : Prop where
  directory : w'.memory.directory = w.memory.directory
  states : w'.states = w.states
  others : ∀ secret now, supply.clock w.calls ≤ now →
    Secret.hash secret ≠ Secret.hash (supply.secret (w.calls + 1)) →
      w'.memory.sessions.table.owner? secret now =
        (w.memory.sessions.table.owner? secret now).filter (· ≠ user)
  used : Secret.hash presented ≠ Secret.hash (supply.secret (w.calls + 1)) →
    Refresh.Dead w'.memory presented
  unheard : Refresh.Opened w.memory w'.memory user (supply.secret (w.calls + 1))
    (supply.clock w.calls)

/-- The token is asked for when the exchange is done. -/
theorem run_refresh_of_exchanged {r : Request} {form : SecretForm} {next : String} {v : World}
    (hform : r.json?.bind SecretForm.ofJson? = some form)
    (hexchange : (Handler.stores (Refresh.rotate form.secret (supply.secret (w.calls + 1))
      (supply.sessionId (w.calls + 2)) (supply.clock w.calls))).run (World.answer supply)
        (w.spent 3) = (some (.ok (next, p)), v)) :
    (s.refresh r).run (World.answer supply) w =
      (s.withAccessToken p fun access => pure (.json 200 (Service.tokensJson access next))).run
        (World.answer supply) v := by
  unfold Service.refresh
  simp only [hform, Program.bind_eq]
  rw [run_ask_andThen (World.answer_clock supply _),
    run_ask_andThen (World.answer_newSecret supply _),
    run_ask_andThen (World.answer_newSessionId supply _), Program.run_andThen]
  simp only [World.spent_spent, World.calls_spent, Nat.reduceAdd, hexchange, Handler.orFail]

theorem ends_refresh {r : Request} {secret : String} (h : PresentsSecret supply w r secret p)
    (hrefused : s.Refuses p (supply.clock (w.calls + 5))) :
    Ends supply w (s.serve r) fun response w' =>
      response = internalError ∧ ExchangedInVain supply w secret p.id w' := by
  obtain ⟨session, v, hfresh, hrotate, hcalls, hstates, hmemory⟩ := @run_stores_rotate supply
    (w.spent 3) p _ _ h.unlocked h.owner h.known h.inCalendar (supply.secret (w.calls + 1))
    (supply.sessionId (w.calls + 2))
  obtain ⟨huser, hhash, -⟩ := Session.fields_of_fresh? hfresh
  rw [serve_refresh h.renews]
  refine Ends.of_run ?_ (run_refresh_of_exchanged h.form hrotate)
  refine (ends_withAccessToken _ (by rw [hcalls]; exact hrefused)).imp ?_
  rintro response w' ⟨rfl, hkept, hkept'⟩
  have hleft : w'.memory = { w.memory with sessions := ⟨SessionTable.file
      ((w.memory.sessions.table.live (supply.clock w.calls)).erase (Secret.hash secret)) session,
        false⟩ } := hkept.trans hmemory
  refine ⟨rfl, ?_, hkept'.trans hstates, fun other now hle hne => ?_, fun hne => ?_, ?_⟩
  · rw [hleft]
  · rw [hleft, ← huser]
    refine SessionTable.owner?_exchange ?_ hle (hhash ▸ hne)
    rw [huser]
    exact h.owner
  · refine Refresh.dead_of_absent ?_
    rw [hleft]
    refine Refresh.find?_file_of_absent ?_ (hhash ▸ hne.symm)
    rw [Keyed.find?_erase, if_pos rfl]
  · rw [hleft]
    exact Refresh.opened_file hfresh

/-- Where the key refuses to sign, whoever comes back and whoever presents a secret is told that
something failed inside. The first has lost nothing. The session of the second is exchanged for
one that nobody can use, and nobody else has lost anything. -/
theorem what_a_refused_signature_costs (s : Service) (supply : Supply) (w : World) (r : Request)
    (p : Principal) :
    (ComesBack s supply w r p → s.Refuses p (supply.clock (w.calls + 4)) →
      Ends supply w (s.serve r) fun response w' =>
        response = internalError ∧ w'.memory = w.memory) ∧
    ∀ secret, PresentsSecret supply w r secret p → s.Refuses p (supply.clock (w.calls + 5)) →
      Ends supply w (s.serve r) fun response w' =>
        response = internalError ∧ ExchangedInVain supply w secret p.id w' :=
  ⟨ends_callback, fun _ => ends_refresh⟩

/-- A service with a key that is too small. -/
def weakService : Service := { loginService with signer := ⟨⟨35, 5, 5⟩⟩ }

theorem refuses_weakService : weakService.Refuses ann noon :=
  refuses_iff.mpr ⟨by decide, by decide⟩

/-- Ann comes back from the identity provider. -/
def annsReturn : Supply :=
  { numberedSupply noon with exchange := fun _ _ => .ok ⟨"ann@example.org", "Ann"⟩ }

/-- A state is out, and works for the rest of the moment. -/
def awaited : World := { bothSignedIn noon with states := Keyed.empty.put "state" noon }

theorem presentsSecret_renewal : PresentsSecret (numberedSupply noon) (bothSignedIn noon) renewal
    "secret 0" ann where
  renews := renews_renewal
  form := form_renewal
  unlocked := by decide +kernel
  owner := by decide +kernel
  known := by decide +kernel
  inCalendar := by decide

theorem ann_comes_back_for_nothing :
    (ComesBack weakService annsReturn awaited comeback ann ∧
      Ends annsReturn awaited (weakService.serve comeback) fun response w' =>
        response = internalError ∧ w'.memory = (bothSignedIn noon).memory) ∧
    PresentsSecret (numberedSupply noon) (bothSignedIn noon) renewal "secret 0" ann ∧
      Ends (numberedSupply noon) (bothSignedIn noon) (weakService.serve renewal) fun response w' =>
        response = internalError ∧
          ExchangedInVain (numberedSupply noon) (bothSignedIn noon) "secret 0" ann.id w' := by
  have hback : ComesBack weakService annsReturn awaited comeback ann := by
    refine ⟨⟨rfl, rfl⟩, ⟨"state", by decide +kernel, by decide +kernel⟩, rfl,
      "code", ⟨"ann@example.org", "Ann"⟩, by decide +kernel, rfl, by decide +kernel⟩
  exact ⟨⟨hback, (what_a_refused_signature_costs _ _ _ _ _).1 hback refuses_weakService⟩,
    presentsSecret_renewal,
    (what_a_refused_signature_costs _ _ _ _ _).2 _ presentsSecret_renewal refuses_weakService⟩

/-- A secret that has worked until then works no more when the signature is refused. -/
theorem a_refused_signature_costs_ann_her_session :
    weakService.Refuses ann noon ∧
      ((Refresh.validate "secret 0" noon).run Memory.answer (bothSignedIn noon).memory).1 =
        some (.ok ann) ∧
      Ends (numberedSupply noon) (bothSignedIn noon) (weakService.serve renewal) fun response w' =>
        response = internalError ∧ Refresh.Dead w'.memory "secret 0" := by
  have hends := ends_refresh presentsSecret_renewal refuses_weakService
  have hapart : Secret.hash "secret 0" ≠
      Secret.hash ((numberedSupply noon).secret ((bothSignedIn noon).calls + 1)) := by
    decide +kernel
  refine ⟨refuses_weakService, by decide +kernel, hends.imp ?_⟩
  rintro response w' ⟨hresponse, hvain⟩
  exact ⟨hresponse, hvain.used hapart⟩

end Api

end TenantAuth
