-- A world in which some calls to the stores fail, to see what the service
-- makes of it.

import TenantAuth.Api.World

namespace TenantAuth

def SessionCall.name : SessionCall → String
  | .replace .. => "replace"
  | .findByHash .. => "find_by_hash"
  | .rotate .. => "rotate"
  | .deleteByHash .. => "delete_by_hash"
  | .deleteForUser .. => "delete_for_user"
  | .sweepExpired .. => "sweep_expired"
  | .ping => "ping"

def DirectoryCall.name : DirectoryCall → String
  | .findById .. => "find_by_id"
  | .findByEmail .. => "find_by_email"
  | .listByOrganization .. => "list_by_organization"
  | .createOrganization .. => "create_organization"
  | .addUser .. => "add_user"
  | .provisionOwner .. => "provision_owner"

namespace BackendCall

/-- What a call is called where faults are set. -/
def name : BackendCall → String
  | .sessions c => c.name
  | .directory c => c.name

/-- The reply to a call that fails. -/
def failed : (c : BackendCall) → StoreError → c.Reply
  | .sessions _, e => .error e
  | .directory _, e => .error e

end BackendCall

namespace Api

/-- How calls of one name go wrong. -/
inductive Fault where
  /-- They fail before anything is done. -/
  | fails (e : StoreError)
  /-- They are never answered. -/
  | hangs
  deriving DecidableEq, Repr

/-- One call, with faults by the names of the calls they are set for. A call that
is never answered runs out of time where it has a limit, and else nothing
comes of it. -/
def World.answerFaulty (faults : List (String × Fault)) (supply : Supply) (c : Call BackendCall)
    (w : World) : Option (c.Reply BackendCall.Reply) × World :=
  match c with
  | .backend b =>
    match faults.lookup b.name with
    | none => w.answer supply (.backend b)
    | some (.fails e) => (some (b.failed e), w)
    | some .hangs => (none, w)
  | .within limit b =>
    match faults.lookup b.name with
    | none => w.answer supply (.within limit b)
    | some (.fails e) => (some (some (b.failed e)), w)
    | some .hangs => (some none, w)
  | c => w.answer supply c

end Api

end TenantAuth
