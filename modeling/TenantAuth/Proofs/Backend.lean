-- One call to one of the two stores at the head of a program, whoever answers it: what is asked,
-- and how the program goes on.

import TenantAuth.Proofs.Program
import TenantAuth.Session.Refresh

namespace TenantAuth.BackendProgram

open Program

variable {σ α : Type} {answer : (c : BackendCall) → σ → Option c.Reply × σ} {s s' : σ}

section

variable {c : SessionCall} {f : c.Reply → BackendProgram α}

theorem run_session_some {reply : c.Reply} (h : answer (.sessions c) s = (some reply, s')) :
    (session c >>= f).run answer s = (f reply).run answer s' := run_call_some h

theorem run_session_none (h : answer (.sessions c) s = (none, s')) :
    (session c >>= f).run answer s = (none, s') := run_call_none h

theorem asked_session_some {reply : c.Reply} (h : answer (.sessions c) s = (some reply, s')) :
    (session c >>= f).asked answer s =
      ⟨.sessions c, some reply⟩ :: (f reply).asked answer s' := asked_call_some h

theorem asked_session_none (h : answer (.sessions c) s = (none, s')) :
    (session c >>= f).asked answer s = [⟨.sessions c, none⟩] := asked_call_none h

end

section

variable {c : DirectoryCall} {f : c.Reply → BackendProgram α}

theorem run_directory_some {reply : c.Reply} (h : answer (.directory c) s = (some reply, s')) :
    (directory c >>= f).run answer s = (f reply).run answer s' := run_call_some h

theorem asked_directory_some {reply : c.Reply} (h : answer (.directory c) s = (some reply, s')) :
    (directory c >>= f).asked answer s =
      ⟨.directory c, some reply⟩ :: (f reply).asked answer s' := asked_call_some h

end

end TenantAuth.BackendProgram

namespace TenantAuth.Refresh

open BackendProgram

/-- What the directory's answer about the user of a session comes to. -/
def loaded : Except StoreError (Option Principal) → Except RefreshError Principal
  | .error e => .error (.store e)
  | .ok none => .error .unknownUser
  | .ok (some p) => .ok p

section

variable {σ α : Type} {answer : (c : BackendCall) → σ → Option c.Reply × σ} {s s' : σ}
  {user : UserId} {f : Except RefreshError Principal → BackendProgram α}
  {found : Except StoreError (Option Principal)}

theorem loadUser_bind :
    loadUser user >>= f = directory (.findById user) >>= fun found => f (loaded found) := by
  refine congrArg (Program.call (BackendCall.directory (.findById user))) (funext fun found => ?_)
  rcases found with e | _ | p <;> rfl

theorem run_loadUser_some (h : answer (.directory (.findById user)) s = (some found, s')) :
    (loadUser user >>= f).run answer s = (f (loaded found)).run answer s' := by
  rw [loadUser_bind, run_directory_some h]

theorem asked_loadUser_some (h : answer (.directory (.findById user)) s = (some found, s')) :
    (loadUser user >>= f).asked answer s =
      ⟨.directory (.findById user), some found⟩ :: (f (loaded found)).asked answer s' := by
  rw [loadUser_bind, asked_directory_some h]

end

end TenantAuth.Refresh
