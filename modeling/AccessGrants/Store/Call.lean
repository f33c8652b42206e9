import AccessGrants.ArgOptions
import AccessGrants.Preflight
import AccessGrants.Request
import AccessGrants.Store.Basic
import AccessGrants.TargetGroup

/-!
# AccessGrants.Store.Call

The calls of a keyed store. A look-up answers none when nothing matches. There are no transactions
over several keys: every condition that spans a read and a write is part of one conditional write.

* `StoreCall`       — the calls with their arguments.
* `StoreCall.Value` — what a call answers when it succeeds.
-/

namespace AccessGrants

/-- `insertTargetGroup` needs a free id. `upsertDeployment` writes provider, function URL and
diagnostics, never the assignment. `assignDeployment` needs an unassigned deployment that still
runs the provider, and a target group that no deployment is assigned to. `clearAssignment` needs
the assignment to name the target group. `claimPreflight` marks a preflight that its owner may
still use as consumed, and answers none for any other. -/
inductive StoreCall where
  | healthCheck
  | getTargetGroup (id : String)
  | listTargetGroups (page : Option String)
  | insertTargetGroup (group : TargetGroup)
  | getDeployment (id : String)
  | upsertDeployment (deployment : Deployment) (guard : AssignmentGuard)
  | findDeployment (targetGroupId : String)
  | assignDeployment (id : String) (provider : Provider) (assignment : Assignment)
  | clearAssignment (id : String) (targetGroupId : String)
  | putPreflight (preflight : Preflight)
  | getPreflight (id : String) (userId : String)
  | claimPreflight (id : String) (userId : String) (now : Instant)
  | putRequest (request : AccessRequest)
  | getRequest (id : String)
  | listRequestsFor (userId : String) (page : Option String)
  | listRequests (page : Option String)
  | getTarget (id : String)
  | putTarget (target : Target)
  | listTargets (page : Option String)
  | getArgOptions (providerId : String) (argId : String)
  | putArgOptions (options : CachedArgOptions)
  deriving Inhabited

namespace StoreCall

abbrev Value : StoreCall → Type
  | healthCheck => Unit
  | getTargetGroup _ => Option TargetGroup
  | listTargetGroups _ => Page TargetGroup
  | insertTargetGroup _ => Unit
  | getDeployment _ => Option Deployment
  | upsertDeployment _ _ => Deployment
  | findDeployment _ => Option Deployment
  | assignDeployment _ _ _ => Deployment
  | clearAssignment _ _ => Deployment
  | putPreflight _ => Unit
  | getPreflight _ _ => Option Preflight
  | claimPreflight _ _ _ => Option Preflight
  | putRequest _ => Unit
  | getRequest _ => Option AccessRequest
  | listRequestsFor _ _ => Page AccessRequest
  | listRequests _ => Page AccessRequest
  | getTarget _ => Option Target
  | putTarget _ => Unit
  | listTargets _ => Page Target
  | getArgOptions _ _ => Option CachedArgOptions
  | putArgOptions _ => Unit

/-- What a call answers. -/
abbrev Reply (c : StoreCall) : Type :=
  Except StoreError c.Value

end StoreCall

end AccessGrants
