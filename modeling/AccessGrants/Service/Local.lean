import AccessGrants.Service.Authorizer
import AccessGrants.Service.Workflow

/-!
# AccessGrants.Service.Local

Services with the collaborators that need nothing but the resources: the workflow that only records
grants, and authorization by identity groups.

* `Proc.locally` — a program over the resources alone.
-/

namespace AccessGrants

namespace Call

/-- What a call does to the resources. -/
def locally (a : GroupAuthorizer) : (c : Call) → ResourceProc c.Reply
  | .resource r => Interaction.call r
  | .grant group subject => LocalWorkflow.grant group subject
  | .revoke request actorId _ => return LocalWorkflow.revoke request actorId
  | .mayRequest user targetId => GroupAuthorizer.mayRequest user targetId
  | .isAdmin user => return .ok (a.isAdmin user)
  | .isReviewer user request => return .ok (GroupAuthorizer.isReviewer user request)

end Call

namespace Proc

def locally (a : GroupAuthorizer) (p : Proc α) : ResourceProc α :=
  p.interpret (Call.locally a) .overflow

end Proc

end AccessGrants
