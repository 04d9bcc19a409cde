-- What the words of a database can change. A server says why it refuses a statement in a
-- code and in words; two servers that differ in the words alone are held side by side, and
-- the directory asks both of them for the same.

import Mathlib.Data.List.Forall2
import TenantAuth.Postgres.Users
import TenantAuth.Proofs.Postgres.Conversation
import TenantAuth.Proofs.SideBySide

namespace TenantAuth

/-! ## Words -/

namespace Postgres

/-- What callers of a store are told of a refusal of the server, with its words in it. -/
def quoted (operation text : String) : String := "database error in " ++ operation ++ ": " ++ text

/-- The same failure but for the words of the server, and these only under some codes. -/
inductive Failure.Reworded (codes : String → Prop) : Failure → Failure → Prop
  | same (f : Failure) : Reworded codes f f
  | server {code : String} (h : codes code) (text text' : String) :
      Reworded codes (.server code text) (.server code text')

end Postgres

open Postgres

/-- What becomes of failures of a database that differ in words: a broken rule of uniqueness is
told in other words, and all else only keeps the store from being available. -/
inductive StoreError.Reworded (codes : String → Prop) : StoreError → StoreError → Prop
  | same (e : StoreError) : Reworded codes e e
  | unavailable (text text' : String) : Reworded codes (.unavailable text) (.unavailable text')
  | conflict (h : codes Failure.uniqueViolation) (operation text text' : String) :
      Reworded codes (.conflict (quoted operation text)) (.conflict (quoted operation text'))

namespace Postgres

variable {codes : String → Prop}

theorem reworded_toStoreError (operation : String) (f f' : Failure) (h : f.Reworded codes f') :
    (f.toStoreError operation).Reworded codes (f'.toStoreError operation) := by
  cases h with
  | same f => exact .same _
  | @server code h text text' =>
    simp only [Failure.toStoreError]
    by_cases hunique : code = Failure.uniqueViolation
    · rw [if_pos hunique, if_pos hunique]
      exact .conflict (hunique ▸ h) operation text text'
    · rw [if_neg hunique, if_neg hunique]
      exact .unavailable _ _

/-- The same reply of a server but for the words of a refusal. -/
def ReplyReworded (codes : String → Prop) {α : Type} : Except Failure α → Except Failure α → Prop :=
  Matches (Failure.Reworded codes) Eq

/-- The same result of an operation but for the words of a refusal in it. -/
def ResultReworded (codes : String → Prop) {α : Type} :
    Except StoreError α → Except StoreError α → Prop :=
  Matches (StoreError.Reworded codes) Eq

/-! ## Servers -/

/-- The same statement with the same reply but for its words. -/
def Sent.Reworded (codes : String → Prop) (e e' : Sent) : Prop :=
  e.statement = e'.statement ∧ ReplyReworded codes e.reply e'.reply

/-- The same was said but for the words of refusals. -/
abbrev SaidReworded (codes : String → Prop) : List Sent → List Sent → Prop :=
  List.Forall₂ (Sent.Reworded codes)

theorem SaidReworded.refl (t : List Sent) : SaidReworded codes t t :=
  List.forall₂_same.mpr fun e _ => ⟨rfl, Matches.refl Failure.Reworded.same e.reply⟩

theorem SaidReworded.statements {t t' : List Sent} (h : SaidReworded codes t t') :
    t.map Sent.statement = t'.map Sent.statement := by
  induction h with
  | nil => rfl
  | cons he _ ih => rw [List.map_cons, List.map_cons, he.1, ih]

/-- One server is the other but for the words of its refusals. -/
structure Server.Reworded (codes : String → Prop) (server server' : Server) : Prop where
  connects : ReplyReworded codes server.connects server'.connects
  acquires : ReplyReworded codes server.acquires server'.acquires
  replies : ∀ past past', SaidReworded codes past past' → ∀ s,
    ReplyReworded codes (server.replies past s) (server'.replies past' s)

/-- The same call is made to both servers. -/
inductive CallReworded (codes : String → Prop) : (c c' : Call) → c.Reply → c'.Reply → Prop
  | connect (address : Address) (maxConnections : UInt32) {r r' : Except Failure Unit}
      (h : ReplyReworded codes r r') :
      CallReworded codes (.connect address maxConnections) (.connect address maxConnections) r r'
  | acquire {r r' : Except Failure Unit} (h : ReplyReworded codes r r') :
      CallReworded codes .acquire .acquire r r'
  | send (s : Statement) {r r' : Except Failure Outcome} (h : ReplyReworded codes r r') :
      CallReworded codes (.send s) (.send s) r r'

/-- Programs beside each other that talk to servers of which one is the other but for words. -/
def wording (codes : String → Prop) : Program.Pairing Call Call.Reply where
  calls := Eq
  replies := CallReworded codes

theorem Server.Reworded.kept {server server' : Server} (h : server.Reworded codes server') :
    (wording codes).Kept (SaidReworded codes) server.answer server'.answer := by
  rintro c _ past past' rfl hpast
  refine ⟨_, _, _, _, rfl, rfl, ?_⟩
  cases c with
  | connect address maxConnections =>
    refine ⟨.connect address maxConnections h.connects, ?_⟩
    rwa [heard, List.append_nil, heard, List.append_nil]
  | acquire =>
    refine ⟨.acquire h.acquires, ?_⟩
    rwa [heard, List.append_nil, heard, List.append_nil]
  | send s =>
    have hreply := h.replies past past' hpast s
    exact ⟨.send s hreply, List.rel_append hpast (.cons ⟨rfl, hreply⟩ .nil)⟩

/-! ## Steps -/

/-- The same state of a connection but for the words of what is owed. -/
def Link.Reworded (codes : String → Prop) (l l' : Link) : Prop :=
  l.depth = l'.depth ∧ Option.Rel (Failure.Reworded codes) l.owed l'.owed

theorem Link.reworded_idle : Link.idle.Reworded codes .idle := ⟨rfl, .none⟩

namespace Step

variable {ε α β : Type} {E : ε → ε → Prop}

/-- The step does the same beside itself, whatever the words are that the server chooses, and
fails alike. -/
def Blind (codes : String → Prop) (E : ε → ε → Prop) (p : Step ε α) : Prop :=
  ∀ l l' : Link, l.Reworded codes l' →
    Program.Beside (wording codes)
      (fun x x' => Matches E Eq x.1 x'.1 ∧ x.2.Reworded codes x'.2) (p l) (p l')

theorem blind_done {x : Except ε α} (h : Matches E Eq x x) :
    Blind codes E (fun l => .done (x, l) : Step ε α) := fun _ _ hl => .done ⟨h, hl⟩

theorem blind_pure (a : α) : Blind codes E (pure a : Step ε α) := blind_done (.ok rfl)

theorem blind_bind {p : Step ε α} {f : α → Step ε β} (hp : p.Blind codes E)
    (hf : ∀ a, (f a).Blind codes E) : (p >>= f).Blind codes E := by
  intro l l' hl
  refine (hp l l' hl).andThen ?_
  rintro ⟨x, m⟩ ⟨x', m'⟩ ⟨hx, hm⟩
  cases hx with
  | ok h =>
    cases h
    exact hf _ m m' hm
  | error h => exact .done ⟨.error h, hm⟩

theorem blind_within (operation : String) {p : Step Failure α}
    (hp : p.Blind codes (Failure.Reworded codes)) :
    (within operation p).Blind codes (StoreError.Reworded codes) := by
  intro l l' hl
  refine (hp l l' hl).andThen ?_
  rintro ⟨x, m⟩ ⟨x', m'⟩ ⟨hx, hm⟩
  exact .done ⟨hx.mapError (reworded_toStoreError operation), hm⟩

theorem beside_send (s : Statement) :
    Program.Beside (wording codes) (ReplyReworded codes) (Program.perform (Call.send s))
      (Program.perform (Call.send s)) := by
  refine .call rfl fun r r' h => ?_
  cases h with
  | send _ h => exact .done h

/-- What is owed comes to light on both sides, or the statement is sent on both. -/
theorem blind_send (s : Statement) : (send s).Blind codes (Failure.Reworded codes) := by
  rintro ⟨depth, owed⟩ ⟨depth', owed'⟩ ⟨hdepth, howed⟩
  cases howed with
  | some h => exact .done ⟨.error h, hdepth, .none⟩
  | none => exact (beside_send s).andThen fun r r' h => .done ⟨h, hdepth, .none⟩

theorem beside_post (s : Statement) {l l' : Link} (hl : l.Reworded codes l') :
    Program.Beside (wording codes) (Link.Reworded codes) (post s l) (post s l') := by
  obtain ⟨depth, owed⟩ := l
  obtain ⟨depth', owed'⟩ := l'
  obtain ⟨hdepth, howed⟩ := hl
  refine (beside_send s).andThen fun r r' h => ?_
  cases h with
  | ok => exact .done ⟨hdepth, howed⟩
  | error h =>
    cases howed with
    | some hfirst => exact .done ⟨hdepth, .some hfirst⟩
    | none => exact .done ⟨hdepth, .some h⟩

theorem beside_abandon {l l' : Link} (hl : l.Reworded codes l') :
    Program.Beside (wording codes) (Link.Reworded codes) (abandon l) (abandon l') := by
  obtain ⟨depth, owed⟩ := l
  obtain ⟨depth', owed'⟩ := l'
  obtain ⟨hdepth, howed⟩ := hl
  cases hdepth
  match depth with
  | 0 => exact .done ⟨rfl, howed⟩
  | 1 => exact beside_post .rollback ⟨rfl, howed⟩
  | depth + 2 => exact beside_post .rollbackToSavepoint ⟨rfl, howed⟩

theorem beside_postAll (statements : List Statement) {l l' : Link} (hl : l.Reworded codes l') :
    Program.Beside (wording codes) (Link.Reworded codes) (postAll statements l)
      (postAll statements l') := by
  induction statements generalizing l l' with
  | nil => exact .done hl
  | cons s rest ih => exact (beside_post s hl).andThen fun _ _ h => ih h

/-- What the client does where a transaction is refused hangs on how many are open. -/
theorem beside_unopened [TransactionManager] {l l' : Link} (hl : l.Reworded codes l') :
    Program.Beside (wording codes) (Link.Reworded codes) (unopened l) (unopened l') := by
  obtain ⟨depth, owed⟩ := l
  obtain ⟨depth', owed'⟩ := l'
  obtain ⟨hdepth, howed⟩ := hl
  cases hdepth
  exact beside_postAll _ ⟨rfl, howed⟩

theorem blind_opened [TransactionManager] : opened.Blind codes (Failure.Reworded codes) := by
  intro l l' hl
  have hsame : (if l.depth = 0 then Statement.begin else .savepoint) =
      if l'.depth = 0 then Statement.begin else .savepoint := by
    rw [hl.1]
  unfold opened
  rw [hsame]
  refine (blind_send _ l l' hl).andThen ?_
  rintro ⟨x, m⟩ ⟨x', m'⟩ ⟨hx, hm⟩
  cases hx with
  | ok => exact .done ⟨.ok rfl, congrArg (· + 1) hm.1, hm.2⟩
  | error h => exact (beside_unopened hm).andThen fun _ _ h' => .done ⟨.error h, h'⟩

theorem blind_kept : kept.Blind codes (Failure.Reworded codes) := by
  rintro ⟨depth, owed⟩ ⟨depth', owed'⟩ ⟨hdepth, howed⟩
  cases hdepth
  cases depth with
  | zero => exact .done ⟨.ok rfl, rfl, howed⟩
  | succ depth =>
    refine (blind_send _ ⟨depth + 1, owed⟩ ⟨depth + 1, owed'⟩ ⟨rfl, howed⟩).andThen ?_
    rintro ⟨x, m⟩ ⟨x', m'⟩ ⟨hx, hm⟩
    cases hx with
    | ok => exact .done ⟨.ok rfl, rfl, hm.2⟩
    | error h => exact (beside_abandon hm).andThen fun _ _ h' => .done ⟨.error h, h'⟩

theorem blind_orAbandon {p : Step ε α} (hp : p.Blind codes E) : (orAbandon p).Blind codes E := by
  intro l l' hl
  refine (hp l l' hl).andThen ?_
  rintro ⟨x, m⟩ ⟨x', m'⟩ ⟨hx, hm⟩
  cases hx with
  | ok h => exact .done ⟨.ok h, hm⟩
  | error h => exact (beside_abandon hm).andThen fun _ _ h' => .done ⟨.error h, h'⟩

/-- A step with failures of the store. -/
abbrev BlindInStore (codes : String → Prop) (p : Step StoreError α) : Prop :=
  p.Blind codes (StoreError.Reworded codes)

theorem blind_fail (e : StoreError) : BlindInStore codes (fail e : Step StoreError α) :=
  blind_done (.error (.same e))

theorem blind_lift (x : Except StoreError α) : BlindInStore codes (lift x) := by
  cases x with
  | ok a => exact blind_pure a
  | error e => exact blind_fail e

theorem blind_transaction [TransactionManager] (operation : String) {p : Step StoreError α}
    (hp : BlindInStore codes p) :
    BlindInStore codes (transaction operation p) :=
  blind_bind (blind_within operation blind_opened) fun _ =>
    blind_bind (blind_orAbandon hp) fun a =>
      blind_bind (blind_within "commit_transaction" blind_kept) fun _ => blind_pure a

theorem beside_connected (operation : String) {p : Step StoreError α} (hp : BlindInStore codes p) :
    Program.Beside (wording codes) (ResultReworded codes) (connected operation p)
      (connected operation p) := by
  refine .call rfl fun r r' h => ?_
  cases h with
  | acquire h =>
    cases h with
    | ok h =>
      cases h
      exact (hp .idle .idle Link.reworded_idle).andThen fun _ _ h => .done h.1
    | error h => exact .done (.error (reworded_toStoreError operation _ _ h))

end Step

/-! ## The directory -/

namespace Users

open Step

theorem blind_statement {α : Type} (operation : String) (s : Statement)
    {next : Outcome → Step StoreError α} (h : ∀ o, BlindInStore codes (next o)) :
    BlindInStore codes (within operation (send s) >>= next) :=
  blind_bind (blind_within operation (blind_send s)) h

theorem blind_oneValue {α : Type} (operation : String) (s : Statement) (read : Cell → Option α) :
    BlindInStore codes (oneValue operation s read) := by
  refine blind_statement operation s fun o => ?_
  cases o.rows.head? with
  | none => exact blind_fail _
  | some row => exact blind_lift _

theorem blind_perform (operation : String) (s : Statement) :
    BlindInStore codes (perform operation s) :=
  blind_statement operation s fun _ => blind_pure ()

theorem blind_ensureEmailFree (email : String) : BlindInStore codes (ensureEmailFree email) := by
  refine blind_bind (blind_oneValue _ _ _) fun taken => ?_
  cases taken with
  | true => exact blind_fail _
  | false => exact blind_pure ()

theorem blind_createOrganization [TransactionManager] (name ownerEmail ownerName : String)
    (new : NewOrganization) : BlindInStore codes (createOrganization name ownerEmail ownerName new) :=
  blind_transaction _ (blind_bind (blind_ensureEmailFree ownerEmail) fun _ =>
    blind_bind (blind_lift _) fun _ => blind_bind (blind_oneValue _ _ _) fun _ =>
      blind_bind (blind_perform _ _) fun _ => blind_bind (blind_perform _ _) fun _ => blind_pure _)

theorem blind_lockedQuota (o : OrganizationId) : BlindInStore codes (lockedQuota o) := by
  refine blind_statement _ _ fun outcome => ?_
  cases outcome.rows.head? with
  | none => exact blind_fail _
  | some row => exact blind_lift _

theorem blind_addUser [TransactionManager] (o : OrganizationId) (email name : String)
    (new : NewUser) : BlindInStore codes (addUser o email name new) := by
  refine blind_transaction _ (blind_bind (blind_ensureEmailFree email) fun _ =>
    blind_bind (blind_lockedQuota o) fun limit => blind_bind (blind_oneValue _ _ _) fun count => ?_)
  split
  · exact blind_fail _
  · exact blind_bind (blind_perform _ _) fun _ => blind_pure _

theorem blind_optionalUser (operation : String) (s : Statement) :
    BlindInStore codes (optionalUser operation s) := by
  refine blind_statement operation s fun outcome => ?_
  cases outcome.rows.head? with
  | none => exact blind_pure none
  | some row => exact blind_bind (blind_lift _) fun p => blind_pure (some p)

theorem blind_listByOrganization (o : OrganizationId) : BlindInStore codes (listByOrganization o) :=
  blind_statement _ _ fun _ => blind_lift _

/-- No call of the directory sends another statement because of the words of the server. -/
theorem beside_answer [TransactionManager] (c : DirectoryCall) :
    Program.Beside (wording codes) (ResultReworded codes) (answer c) (answer c) := by
  cases c with
  | findById id => exact beside_connected _ (blind_optionalUser _ _)
  | findByEmail email => exact beside_connected _ (blind_optionalUser _ _)
  | listByOrganization o => exact beside_connected _ (blind_listByOrganization o)
  | createOrganization => exact beside_connected _ (blind_createOrganization _ _ _ _)
  | addUser => exact beside_connected _ (blind_addUser _ _ _ _)
  | provisionOwner =>
    refine (beside_connected _ (blind_createOrganization _ _ _ _)).andThen fun x x' h => ?_
    cases h with
    | ok h =>
      cases h
      exact .done (.ok rfl)
    | error h => exact .done (.error h)

/-- A call of the directory to two servers of which one is the other but for words ends alike
with both, and the same statements are sent. -/
theorem run_answer_reworded [TransactionManager] {server server' : Server}
    (h : server.Reworded codes server') (c : DirectoryCall) {past past' : List Sent}
    (hpast : SaidReworded codes past past') :
    ∃ x x' said said', (answer c).run server.answer past = (some x, said) ∧
      (answer c).run server'.answer past' = (some x', said') ∧
      ResultReworded codes x x' ∧ SaidReworded codes said said' :=
  (beside_answer c).run h.kept hpast

end Users

end Postgres

end TenantAuth
