import AccessGrants.Names
import AccessGrants.Time.Instant

/-!
# AccessGrants.Grant

Realised access to one target for a span of time.

* `GrantStatus`            — active, or one of the two final states.
* `Grant.revoke`, `Grant.expire` — the only ways out of the active state.
* `Grant.expireIfElapsed`  — expires an active grant whose end has come.
-/

namespace AccessGrants

inductive GrantStatus where
  | active
  | expired
  | revoked
  deriving DecidableEq, Repr, Inhabited

namespace GrantStatus

def isTerminal (s : GrantStatus) : Bool :=
  s ≠ active

def text : GrantStatus → String
  | active => "active"
  | expired => "expired"
  | revoked => "revoked"

end GrantStatus

/-- `parameters` are the provider parameters of the grant and `subject` is the identity that the
access was provisioned for. -/
structure Grant where
  id : String
  accessGroupId : String
  targetId : String
  targetGroupId : String
  parameters : Parameters
  accessRule : String
  requestedBy : String
  subject : String
  status : GrantStatus
  start : Instant
  stop : Instant
  revokedBy : Option String
  deriving DecidableEq, Inhabited

/-- A grant in a final state was to change. -/
structure GrantTransitionError where
  grantId : String
  status : GrantStatus
  deriving DecidableEq, Repr

namespace GrantTransitionError

def message (e : GrantTransitionError) : String :=
  "grant " ++ e.grantId ++ " is " ++ e.status.text ++ " and cannot change state"

end GrantTransitionError

namespace Grant

def isActive (g : Grant) : Bool :=
  g.status = .active

/-- Whether the span of an active grant is over. -/
def elapsed (g : Grant) (now : Instant) : Bool :=
  g.isActive && decide (g.stop ≤ now)

def revoke (g : Grant) (actorId : String) : Except GrantTransitionError Grant :=
  if g.status.isTerminal then .error ⟨g.id, g.status⟩
  else .ok { g with status := .revoked, revokedBy := some actorId }

def expire (g : Grant) : Except GrantTransitionError Grant :=
  if g.status.isTerminal then .error ⟨g.id, g.status⟩
  else .ok { g with status := .expired }

def expireIfElapsed (g : Grant) (now : Instant) : Grant :=
  if g.elapsed now then { g with status := .expired } else g

end Grant

end AccessGrants
