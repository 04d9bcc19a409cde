-- What the service keeps its data in: a store of sessions and a directory.
-- Programs name the calls they make; which store answers is left open.

import TenantAuth.Directory.Store
import TenantAuth.Program
import TenantAuth.Session.Store

namespace TenantAuth

/-- A call to one of the two stores. -/
inductive BackendCall where
  | sessions (c : SessionCall)
  | directory (c : DirectoryCall)
  deriving DecidableEq

abbrev BackendCall.Reply : BackendCall → Type
  | .sessions c => c.Reply
  | .directory c => c.Reply

/-- A computation over the two stores. -/
abbrev BackendProgram := Program BackendCall BackendCall.Reply

namespace BackendProgram

def session (c : SessionCall) : BackendProgram c.Reply := Program.perform (BackendCall.sessions c)

def directory (c : DirectoryCall) : BackendProgram c.Reply := Program.perform (BackendCall.directory c)

end BackendProgram

/-- Both stores in memory. -/
structure Memory where
  sessions : SessionMemory
  directory : Directory

namespace Memory

def empty : Memory := ⟨.empty, .empty⟩

def answer : (c : BackendCall) → Memory → Option c.Reply × Memory
  | .sessions c, m =>
    let (reply, sessions) := m.sessions.answer c
    (reply, { m with sessions })
  | .directory c, m =>
    let (reply, directory) := m.directory.answer c
    (some reply, { m with directory })

end Memory

end TenantAuth
