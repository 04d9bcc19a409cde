-- What a store of sessions is asked, and the store that keeps them in memory.

import TenantAuth.Error
import TenantAuth.Keyed
import TenantAuth.Session

namespace TenantAuth

/-- What a store of sessions can be asked to do. Each call is one step that no
other call comes in between. -/
inductive SessionCall where
  /-- File a session in place of any other session of its user. -/
  | replace (session : Session)
  /-- The session filed under a hash. -/
  | findByHash (hash : String) (now : Instant)
  /-- Take out the session filed under a hash and, if it is not over, file one
  with a new id and a new hash for the same user. The reply is what was taken. -/
  | rotate (hash newHash : String) (newId : SessionId) (now : Instant)
  /-- Take out the session filed under a hash; the reply says if there was one. -/
  | deleteByHash (hash : String)
  /-- Take out every session of a user; the reply says if there was one. -/
  | deleteForUser (user : UserId)
  /-- Take out every session that is over; the reply is their number. -/
  | sweepExpired (now : Instant)
  /-- Find out whether the store can be reached. -/
  | ping
  deriving DecidableEq

/-- The reply to a call when all goes well. -/
abbrev SessionCall.Answer : SessionCall → Type
  | .replace _ => Unit
  | .findByHash .. => Option Session
  | .rotate .. => Option Session
  | .deleteByHash _ => Bool
  | .deleteForUser _ => Bool
  | .sweepExpired _ => Nat
  | .ping => Unit

/-- The reply to a call. -/
abbrev SessionCall.Reply (c : SessionCall) : Type := Except StoreError c.Answer

/-- Sessions by the hashes they are filed under. -/
abbrev SessionTable := Keyed String Session

namespace SessionTable

/-- The sessions that are not over. -/
def live (t : SessionTable) (now : Instant) : SessionTable := t.keep fun _ s => !s.isExpiredAt now

def withoutUser (t : SessionTable) (u : UserId) : SessionTable := t.keep fun _ s => s.user ≠ u

/-- File a session under its hash, in place of any other session of its user. -/
def file (t : SessionTable) (s : Session) : SessionTable :=
  (t.withoutUser s.user).put s.tokenHash s

/-- One call. Every call that files something, and every look-up, first drops
what is over. There is no reply to a rotation whose new session would end past
the calendar: it breaks down with the old one already taken out. -/
def answer : (c : SessionCall) → SessionTable → Option c.Answer × SessionTable
  | .replace s, t => (some (), (t.live s.createdAt).file s)
  | .findByHash hash now, t => (some ((t.live now).find? hash), t.live now)
  | .rotate hash newHash newId now, t =>
    match (t.live now).find? hash with
    | none => (some none, t.live now)
    | some consumed =>
      let rest : SessionTable := (t.live now).erase hash
      if consumed.isExpiredAt now then (some (some consumed), rest)
      else
        match Session.fresh? newId consumed.user newHash now with
        | none => (none, rest.withoutUser consumed.user)
        | some next => (some (some consumed), rest.file next)
  | .deleteByHash hash, t => (some (t.find? hash).isSome, t.erase hash)
  | .deleteForUser user, t => (some (decide ((t.withoutUser user).size < t.size)), t.withoutUser user)
  | .sweepExpired now, t => (some (t.size - (t.live now).size), t.live now)
  | .ping, t => (some (), t)

end SessionTable

/-- A store of sessions in memory. A call that breaks down leaves the store
locked, and from then on it refuses to work. -/
structure SessionMemory where
  table : SessionTable
  locked : Bool

namespace SessionMemory

def empty : SessionMemory := ⟨.empty, false⟩

/-- The refusal of a locked store. -/
def lockedError : StoreError := .unavailable "lock poisoned"

/-- One call. A locked store can still be reached. -/
def answer (c : SessionCall) (m : SessionMemory) : Option c.Reply × SessionMemory :=
  if m.locked ∧ c ≠ .ping then (some (.error lockedError), m)
  else
    match m.table.answer c with
    | (some reply, table) => (some (.ok reply), { m with table })
    | (none, table) => (none, { table, locked := true })

/-- An open store answers as its table does. -/
theorem answer_of_table {t t' : SessionTable} {c : SessionCall} {a : c.Answer}
    (h : t.answer c = (some a, t')) : answer c ⟨t, false⟩ = (some (.ok a), ⟨t', false⟩) := by
  simp [answer, h]

/-- How many sessions are filed. -/
def count (m : SessionMemory) : Except StoreError Nat :=
  if m.locked then .error lockedError else .ok m.table.size

end SessionMemory

end TenantAuth

