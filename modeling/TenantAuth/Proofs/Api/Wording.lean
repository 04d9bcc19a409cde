-- What clients are told in the words of a database. The service is held beside itself, over two
-- databases of which one is the other but for the words of its refusals: the answers are the
-- same, except where a rule of uniqueness is broken.

import TenantAuth.Postgres.Backend
import TenantAuth.Proofs.Api.Effects
import TenantAuth.Proofs.Postgres.Wording

namespace TenantAuth.Api

open TenantAuth.Http TenantAuth.Postgres

/-! ## Worlds with a database -/

/-- A world with both stores in a database. What the world has in memory is not looked at. -/
structure Hosted where
  world : World
  /-- What was said to the database. -/
  said : List Sent

namespace Hosted

/-- One call. -/
def answer [TransactionManager] (server : Server) (supply : Supply) (c : Call BackendCall)
    (h : Hosted) : Option (c.Reply BackendCall.Reply) × Hosted :=
  match c with
  | .backend b =>
    let (reply, said) := (Postgres.answer b).run server.answer h.said
    (reply, ⟨h.world.spent 1, said⟩)
  | .within _ b =>
    if supply.late h.world.calls then (some none, ⟨h.world.spent 1, h.said⟩)
    else
      let (reply, said) := (Postgres.answer b).run server.answer h.said
      (reply.map some, ⟨h.world.spent 1, said⟩)
  | c =>
    let (reply, world) := World.answer supply c h.world
    (reply, ⟨world, h.said⟩)

/-- After as many calls the same was said to the database, but for the words of refusals. What
the log says is left open. -/
structure Reworded (codes : String → Prop) (h h' : Hosted) : Prop where
  calls : h.world.calls = h'.world.calls
  said : SaidReworded codes h.said h'.said

end Hosted

/-- The same call, or an event each for the log. -/
inductive AskedBeside : Call BackendCall → Call BackendCall → Prop
  | clock : AskedBeside .clock .clock
  | newOrganization : AskedBeside .newOrganization .newOrganization
  | newUser : AskedBeside .newUser .newUser
  | directory (d : DirectoryCall) :
      AskedBeside (.backend (.directory d)) (.backend (.directory d))
  | log (e e' : Event) : AskedBeside (.log e) (.log e')

/-- The same reply, but for the words in which the directory fails. -/
inductive ToldBeside (codes : String → Prop) :
    (c c' : Call BackendCall) → c.Reply BackendCall.Reply → c'.Reply BackendCall.Reply → Prop
  | clock (t : Instant) : ToldBeside codes .clock .clock t t
  | newOrganization (new : NewOrganization) :
      ToldBeside codes .newOrganization .newOrganization new new
  | newUser (new : NewUser) : ToldBeside codes .newUser .newUser new new
  | directory (d : DirectoryCall) {x x' : d.Reply} (h : ResultReworded codes x x') :
      ToldBeside codes (.backend (.directory d)) (.backend (.directory d)) x x'
  | log (e e' : Event) : ToldBeside codes (.log e) (.log e') () ()

/-- Handlers beside each other over databases of which one is the other but for words. -/
def hostedWording (codes : String → Prop) :
    Program.Pairing (Call BackendCall) (Call.Reply BackendCall.Reply) where
  calls := AskedBeside
  replies := ToldBeside codes

/-- The same answer, or a conflict that each database tells in its words. -/
inductive ResponseReworded (codes : String → Prop) : Response → Response → Prop
  | same (response : Response) : ResponseReworded codes response response
  | conflict (h : codes Failure.uniqueViolation) (operation text text' : String) :
      ResponseReworded codes (Answer.problem 409 "conflict" (quoted operation text))
        (Answer.problem 409 "conflict" (quoted operation text'))

variable {codes : String → Prop}

theorem kept_hosted [TransactionManager] {server server' : Server}
    (h : server.Reworded codes server') (supply : Supply) :
    (hostedWording codes).Kept (Hosted.Reworded codes) (Hosted.answer server supply)
      (Hosted.answer server' supply) := by
  rintro c c' v v' hcalls ⟨hcount, hsaid⟩
  have hcount' : (v.world.spent 1).calls = (v'.world.spent 1).calls := congrArg (· + 1) hcount
  cases hcalls with
  | clock =>
    refine ⟨_, _, _, _, rfl, rfl, ?_, hcount', hsaid⟩
    rw [hcount]
    exact .clock _
  | newOrganization =>
    refine ⟨_, _, _, _, rfl, rfl, ?_, hcount', hsaid⟩
    rw [hcount]
    exact .newOrganization _
  | newUser =>
    refine ⟨_, _, _, _, rfl, rfl, ?_, hcount', hsaid⟩
    rw [hcount]
    exact .newUser _
  | directory d =>
    obtain ⟨x, x', said, said', hrun, hrun', hx, hsaid'⟩ := Users.run_answer_reworded h d hsaid
    have hanswer : Hosted.answer server supply (.backend (.directory d)) v =
        (some x, ⟨v.world.spent 1, said⟩) := by
      simp only [Hosted.answer, Postgres.answer, hrun]
    have hanswer' : Hosted.answer server' supply (.backend (.directory d)) v' =
        (some x', ⟨v'.world.spent 1, said'⟩) := by
      simp only [Hosted.answer, Postgres.answer, hrun']
    exact ⟨x, x', _, _, hanswer, hanswer', .directory d hx, hcount', hsaid'⟩
  | log e e' =>
    exact ⟨_, _, _, _, rfl, rfl, .log e e', hcount', hsaid⟩

/-! ## Handlers -/

/-- The handlers answer with the same, or with a conflict that is told in words of the database. -/
abbrev AnswersBeside (codes : String → Prop) : Handler Response → Handler Response → Prop :=
  Program.Beside (hostedWording codes) (ResponseReworded codes)

theorem answers_same (response : Response) :
    AnswersBeside codes (pure response) (pure response) := .done (.same response)

theorem answers_fail (e : AuthError) : AnswersBeside codes (Handler.fail e) (Handler.fail e) := by
  have hlogged : ∀ event : Event, AnswersBeside codes
      (.call (.log event) fun _ => .done (Answer.ofError e))
      (.call (.log event) fun _ => .done (Answer.ofError e)) :=
    fun event => .call (.log event event) fun _ _ _ => answers_same _
  cases e with
  | unauthenticated => exact answers_same _
  | forbidden => exact answers_same _
  | notFound => exact answers_same _
  | conflict text => exact answers_same _
  | transient text => exact hlogged _
  | internal text => exact hlogged _

/-- Where the store is not available the words go to the log; in a conflict they are told. -/
theorem answers_storeError {e e' : StoreError} (h : e.Reworded codes e') :
    AnswersBeside codes (Handler.fail e.toAuthError) (Handler.fail e'.toAuthError) := by
  cases h with
  | same => exact answers_fail _
  | unavailable text text' => exact .call (.log _ _) fun _ _ _ => answers_same _
  | conflict h operation text text' => exact .done (.conflict h operation text text')

theorem answers_orFail {α : Type} {x x' : Except StoreError α} (h : ResultReworded codes x x')
    {next : α → Handler Response} (hnext : ∀ a, AnswersBeside codes (next a) (next a)) :
    AnswersBeside codes (Handler.orFail StoreError.toAuthError x next)
      (Handler.orFail StoreError.toAuthError x' next) := by
  cases h with
  | ok h =>
    cases h
    exact hnext _
  | error h => exact answers_storeError h

theorem answers_memberAnswer {x x' : Except StoreError Principal} (h : ResultReworded codes x x') :
    AnswersBeside codes (memberAnswer x) (memberAnswer x') := by
  cases h with
  | ok h =>
    cases h
    exact answers_same _
  | @error e e' h =>
    cases h with
    | same =>
      unfold memberAnswer
      cases e with
      | limitReached => exact answers_same _
      | unavailable => exact answers_fail _
      | conflict => exact answers_fail _
      | corrupt => exact answers_fail _
      | missing => exact answers_fail _
    | unavailable text text' => exact answers_storeError (.unavailable text text')
    | conflict h operation text text' => exact answers_storeError (.conflict h operation text text')

theorem answers_directory (d : DirectoryCall) {next : d.Reply → Handler Response}
    (hnext : ∀ x x' : d.Reply, ResultReworded codes x x' → AnswersBeside codes (next x) (next x')) :
    AnswersBeside codes ((Handler.stores (BackendProgram.directory d)).andThen next)
      ((Handler.stores (BackendProgram.directory d)).andThen next) := by
  refine .call (.directory d) fun x x' h => ?_
  cases h with
  | directory _ h => exact hnext x x' h

theorem answers_createOrganization (r : Request) :
    AnswersBeside codes (Service.createOrganization r) (Service.createOrganization r) := by
  unfold Service.createOrganization
  cases r.json?.bind OrganizationForm.ofJson? with
  | none => exact answers_same _
  | some form =>
    dsimp only
    cases form.check with
    | error e => exact answers_same _
    | ok =>
      refine .call .newOrganization fun new new' h => ?_
      cases h
      exact answers_directory _ fun x x' hx => answers_orFail hx fun _ => answers_same _

theorem addMember_eq {o : OrganizationId} {r : Request} {form : MemberForm}
    (hform : r.json?.bind MemberForm.ofJson? = some form) (hcheck : form.check = .ok ()) :
    Service.addMember o r = (Handler.ask .newUser).andThen fun new =>
      (Handler.stores (BackendProgram.directory
        (.addUser o form.email (Text.trim form.name) new))).andThen memberAnswer := by
  simp only [Service.addMember, hform, hcheck, Program.bind_eq]
  refine congrArg _ (funext fun new => congrArg _ (funext fun x => ?_))
  unfold memberAnswer
  rcases x with e | member
  · cases e <;> rfl
  · rfl

theorem answers_addMember (o : OrganizationId) (r : Request) :
    AnswersBeside codes (Service.addMember o r) (Service.addMember o r) := by
  cases hform : r.json?.bind MemberForm.ofJson? with
  | none =>
    rw [Service.addMember, hform]
    exact answers_same _
  | some form =>
    cases hcheck : form.check with
    | error e =>
      simp only [Service.addMember, hform, hcheck]
      exact answers_same _
    | ok =>
      rw [addMember_eq hform hcheck]
      refine .call .newUser fun new new' h => ?_
      cases h
      exact answers_directory _ fun x x' hx => answers_memberAnswer hx

theorem answers_handler (e : Endpoint) (s : Service) (r : Request) (p : Principal) :
    AnswersBeside codes (e.handler s r p) (e.handler s r p) := by
  cases e with
  | createOrganization => exact answers_createOrganization r
  | listMembers =>
    exact answers_directory _ fun x x' hx => answers_orFail hx fun _ => answers_same _
  | addMember => exact answers_addMember p.organization r
  | whoami => exact answers_same _

theorem answers_letIn {inner : Principal → Handler Response}
    (hinner : ∀ p, AnswersBeside codes (inner p) (inner p)) (x : Except AuthError Principal) :
    AnswersBeside codes (letIn inner x) (letIn inner x) := by
  cases x with
  | ok p => exact hinner p
  | error e => exact answers_fail e

theorem authenticated_eq (signer : Signer) (header : Option String)
    (inner : Principal → Handler Response) :
    authenticated signer header inner = (Handler.ask .clock).andThen fun now =>
      (Handler.stores (Authentication.authenticate signer header now)).andThen (letIn inner) := rfl

theorem answers_authenticated (signer : Signer) (header : Option String)
    {inner : Principal → Handler Response}
    (hinner : ∀ p, AnswersBeside codes (inner p) (inner p)) :
    AnswersBeside codes (authenticated signer header inner)
      (authenticated signer header inner) := by
  rw [authenticated_eq]
  refine .call .clock fun now now' h => ?_
  cases h
  dsimp only [Program.done_andThen]
  by_cases hshows : ∃ c, Authentication.Shows signer header now c
  · obtain ⟨c, hshows⟩ := hshows
    rw [Authentication.authenticate_of_shows hshows, Authentication.principalOf_eq]
    refine .call (.directory (.findById c.user)) fun x x' h => ?_
    cases h with
    | directory _ hx =>
      cases hx with
      | ok h =>
        cases h
        exact answers_letIn hinner _
      | error h => exact answers_storeError h
  · rw [Authentication.authenticate_of_not_shows (not_exists.mp hshows)]
    exact answers_letIn hinner _

theorem answers_serve {e : Endpoint} {r : Request} (he : e.Takes r) (s : Service) :
    AnswersBeside codes (s.serve r) (s.serve r) := by
  rw [serve_eq he]
  cases htarget : e.target? with
  | none => exact answers_same _
  | some target =>
    refine answers_authenticated _ _ fun p => ?_
    by_cases hpermits : e.Permits s p
    · rw [act_of_permits htarget hpermits]
      exact answers_handler e s r p
    · rw [act_of_not_permits htarget hpermits]
      exact answers_same _

/-- However the database words its refusals, a protected request is answered with the same, and
the database is asked for the same, unless a rule of uniqueness is broken: the answer to that
has the words in it. -/
theorem clients_hear_the_database_in_conflicts_alone [TransactionManager]
    {server server' : Server} (h : server.Reworded codes server') {e : Endpoint} {r : Request}
    (he : e.Takes r) (s : Service) (supply : Supply) (v : Hosted) :
    ∃ response response' v₁ v₂,
      (s.serve r).run (Hosted.answer server supply) v = (some response, v₁) ∧
      (s.serve r).run (Hosted.answer server' supply) v = (some response', v₂) ∧
      ResponseReworded codes response response' ∧
      v₁.said.map Sent.statement = v₂.said.map Sent.statement := by
  obtain ⟨response, response', v₁, v₂, hrun, hrun', hresponse, hv⟩ :=
    (answers_serve he s).run (kept_hosted h supply) ⟨rfl, SaidReworded.refl v.said⟩
  exact ⟨response, response', v₁, v₂, hrun, hrun', hresponse, hv.said.statements⟩

/-! ## A new member in the way of another -/

def annsRow : Row where
  cells :=
    [("id", .uuid ann.id.uuid), ("organization_id", .uuid home.uuid), ("email", .text ann.email),
     ("name", .text ann.name), ("role", .text "owner"), ("permissions", .texts []),
     ("created_at", .time noon)]

/-- A database that knows Ann, finds an email free and refuses whoever is put in with it. -/
def refusing (code text : String) : Server where
  connects := .ok ()
  acquires := .ok ()
  replies _
    | .findUser _ => .ok ⟨[annsRow], 0⟩
    | .emailTaken _ => .ok ⟨[⟨[("exists", .bool false)]⟩], 0⟩
    | .lockOrganization _ => .ok ⟨[⟨[("max_sub_accounts", .int4 5)]⟩], 0⟩
    | .countSubAccounts _ => .ok ⟨[⟨[("count", .int8 0)]⟩], 0⟩
    | .insertUser _ => .error (.server code text)
    | _ => .ok ⟨[], 0⟩

theorem reworded_refusing {code : String} (h : codes code) (text text' : String) :
    (refusing code text).Reworded codes (refusing code text') where
  connects := .ok rfl
  acquires := .ok rfl
  replies past past' _ s := by
    cases s with
    | insertUser p => exact .error (.server h text text')
    | _ => exact .ok rfl

/-- A world in which nothing was said to the database so far. -/
def silent : Hosted := ⟨.empty, []⟩

/-- What comes of a request for a new member that shows a token. -/
def invited [TransactionManager] (server : Server) (token : String) : Option Response × Hosted :=
  (plainService.serve (invitation token)).run (Hosted.answer server plainSupply) silent

/-- Whoever shows a token that is accepted, and is found in the database, is let in. -/
theorem run_authenticated_of_found [TransactionManager] {signer : Signer}
    {header : Option String} {server : Server} {supply : Supply} {v : Hosted} {c : Claims}
    {p : Principal} {said : List Sent}
    (hshows : Authentication.Shows signer header (supply.clock v.world.calls) c)
    (hfound : (Users.answer (.findById c.user)).run server.answer v.said =
      (some (.ok (some p)), said))
    (horganization : p.organization = c.organization) (inner : Principal → Handler Response) :
    (authenticated signer header inner).run (Hosted.answer server supply) v =
      (inner p).run (Hosted.answer server supply) ⟨v.world.spent 2, said⟩ := by
  have hverdict : Authentication.verdictOn c (.ok (some p)) = .ok p :=
    Authentication.verdictOn_eq_ok_iff.mpr ⟨rfl, horganization⟩
  have hanswer : Hosted.answer server supply (.backend (Authentication.lookUp c))
      ⟨v.world.spent 1, v.said⟩ = (some (.ok (some p)), ⟨v.world.spent 2, said⟩) := by
    simp only [Hosted.answer, Postgres.answer, hfound]
    rfl
  have hclock : Hosted.answer server supply .clock v =
      (some (supply.clock v.world.calls), ⟨v.world.spent 1, v.said⟩) := rfl
  rw [authenticated_eq]
  refine (Program.run_call_some hclock).trans ?_
  dsimp only [Program.done_andThen]
  rw [Authentication.authenticate_of_shows hshows, Authentication.principalOf_eq]
  refine (Program.run_call_some hanswer).trans ?_
  change (letIn inner (Authentication.verdictOn c (.ok (some p)))).run _ _ = _
  rw [hverdict]
  rfl

/-- Ann asks for a new member whose email somebody takes while she asks. -/
theorem invited_refused [TransactionManager] (text : String) :
    ∃ token, plainService.signer.issue? ann noon = some (.ok token) ∧
      (invited (refusing Failure.uniqueViolation text) token).1 =
        some (Answer.problem 409 "conflict" (quoted "insert_user" text)) := by
  have hknown : annsWorld.memory.directory.users.find? ann.id = some ann := rfl
  obtain ⟨token, hissue, hborne⟩ := issued_is_borne plainService Rsa.PrivateKey.refusal?_mersenne
    Rsa.PrivateKey.sound_mersenne plainSupply annsWorld hknown (by decide) (by decide)
  obtain ⟨c, hshows, -, horganization⟩ := bears_iff.mp (hborne (invitation token) rfl)
  have htarget : homesMembers.target? = some (some home) := by decide
  have hpermits : homesMembers.Permits plainService ann := by
    refine ⟨?_, ?_⟩
    · rintro q ⟨⟩
      decide
    · rintro id ⟨⟩
      decide
  refine ⟨token, hissue, ?_⟩
  rw [invited, serve_eq (takes_invitation token), htarget]
  dsimp only
  rw [run_authenticated_of_found (v := silent) hshows rfl horganization,
    act_of_permits htarget hpermits]
  change ((Service.addMember home (invitation token)).run _ _).1 = _
  rw [addMember_eq (form_invitation token) (by decide +kernel)]
  rfl

section

open TransactionManager.CountingFirst

/-- An outage is no broken rule. -/
theorem an_outage_is_answered_in_the_same_words :
    (refusing "57P01" "terminating connection").Reworded (· ≠ Failure.uniqueViolation)
        (refusing "57P01" "the database system is shutting down") ∧
      ∃ token, plainService.signer.issue? ann noon = some (.ok token) ∧
        homesMembers.Takes (invitation token) ∧ ∃ response v₁ v₂,
          invited (refusing "57P01" "terminating connection") token = (some response, v₁) ∧
          invited (refusing "57P01" "the database system is shutting down") token =
            (some response, v₂) := by
  have hreworded : (refusing "57P01" "terminating connection").Reworded
      (· ≠ Failure.uniqueViolation) (refusing "57P01" "the database system is shutting down") :=
    reworded_refusing (by decide) _ _
  obtain ⟨token, hissue, -⟩ := invited_refused ""
  obtain ⟨response, response', v₁, v₂, hrun, hrun', hresponse, -⟩ :=
    clients_hear_the_database_in_conflicts_alone hreworded (takes_invitation token) plainService
      plainSupply silent
  refine ⟨hreworded, token, hissue, takes_invitation token, response, v₁, v₂, hrun, ?_⟩
  cases hresponse with
  | same => exact hrun'
  | conflict h => exact absurd rfl h

theorem message_of_problem {status : Nat} {code message message' : String}
    (h : Answer.problem status code message = Answer.problem status code message') :
    message = message' := by
  simpa [Answer.problem, Response.json] using h

/-- How a database says that a value is there already. -/
def duplicateKey (constraint : String) : String :=
  "duplicate key value violates unique constraint \"" ++ constraint ++ "\""

/-- A database in which somebody takes the email meanwhile. -/
def overtaken (constraint : String) : Server :=
  refusing Failure.uniqueViolation (duplicateKey constraint)

/-- Of a broken rule Ann is told what it is called in the database. -/
theorem a_broken_rule_is_told_by_its_name :
    (overtaken "users_email_key").Reworded (· = Failure.uniqueViolation) (overtaken "one_email") ∧
      ∃ token, plainService.signer.issue? ann noon = some (.ok token) ∧
        homesMembers.Takes (invitation token) ∧
        (invited (overtaken "users_email_key") token).1 = some (Answer.problem 409 "conflict"
          (quoted "insert_user" (duplicateKey "users_email_key"))) ∧
        (invited (overtaken "users_email_key") token).1 ≠
          (invited (overtaken "one_email") token).1 := by
  obtain ⟨token, hissue, hrun⟩ := invited_refused (duplicateKey "users_email_key")
  obtain ⟨token', hissue', hrun'⟩ := invited_refused (duplicateKey "one_email")
  obtain rfl : token = token' := by simpa [hissue] using hissue'
  have hreworded : (overtaken "users_email_key").Reworded (· = Failure.uniqueViolation)
      (overtaken "one_email") := reworded_refusing (by rfl) _ _
  refine ⟨hreworded, token, hissue, takes_invitation token, hrun, ?_⟩
  rw [overtaken, overtaken, hrun, hrun']
  intro hsame
  exact absurd (message_of_problem (Option.some.inj hsame)) (by decide +kernel)

end

end TenantAuth.Api
