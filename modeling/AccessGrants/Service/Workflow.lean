import AccessGrants.Service.Proc

/-!
# AccessGrants.Service.Workflow

The workflow that records grants without calling a provider.

* `LocalWorkflow.grant`  — one active grant for each target of a group, from now on for the duration
                           of the group.
* `LocalWorkflow.revoke` — the revoked copies of the active grants of a request.
-/

namespace AccessGrants.LocalWorkflow

/-- The grant of one target. -/
def grantFor (group : AccessGroup) (subject : Requester) (start stop : Instant) (target : Target)
    (id : String) : Grant where
  id := id
  accessGroupId := group.id
  targetId := target.id
  targetGroupId := target.targetGroupId
  parameters := target.fields
  accessRule := group.accessRule
  requestedBy := subject.id
  subject := subject.email
  status := .active
  start := start
  stop := stop
  revokedBy := none

def grantAll (group : AccessGroup) (subject : Requester) (start stop : Instant) :
    List Target → ResourceProc (List Grant)
  | [] => return []
  | target :: rest => do
    let id ← Interaction.call Resource.freshId
    let more ← grantAll group subject start stop rest
    return grantFor group subject start stop target id :: more

/-- Overflows when the duration or the end of the grants is out of range. -/
def grant (group : AccessGroup) (subject : Requester) :
    ResourceProc (Except WorkflowError (List Grant)) := do
  let start ← Interaction.call Resource.now
  let stop ← Interaction.ofOption (group.duration?.bind start.addSeconds?)
  return .ok (← grantAll group subject start stop group.targets)

/-- A request without grants and one without active grants are refused for different reasons. -/
def revoke (request : AccessRequest) (actorId : String) : Except WorkflowError (List Grant) :=
  if request.grants.isEmpty then .error .noGrant
  else
    let revoked := (request.grants.filter (·.isActive)).filterMap fun g =>
      (g.revoke actorId).toOption
    if revoked.isEmpty then .error .grantInactive else .ok revoked

end AccessGrants.LocalWorkflow
