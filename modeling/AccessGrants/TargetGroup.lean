import AccessGrants.Provider
import AccessGrants.Time.Instant

/-!
# AccessGrants.TargetGroup

Target groups and the deployments that are bound to them.

* `TargetGroup` — a schema captured from a provider once and never changed.
* `Deployment`  — a running provider, assigned to at most one target group.
-/

namespace AccessGrants

/-- A target schema and the reference of the provider that it was taken from. -/
structure TargetSchema where
  source : String
  schema : Json
  deriving DecidableEq, Inhabited

structure TargetGroup where
  id : String
  targetSchema : TargetSchema
  createdAt : Instant
  updatedAt : Instant
  deriving DecidableEq, Inhabited

namespace TargetGroup

def create (id : String) (targetSchema : TargetSchema) (now : Instant) : TargetGroup :=
  ⟨id, targetSchema, now, now⟩

end TargetGroup

inductive DiagnosticLevel where
  | info
  | warning
  | error
  deriving DecidableEq, Repr, Inhabited

/-- A health message that a deployment reports. -/
structure Diagnostic where
  level : DiagnosticLevel
  message : String
  deriving DecidableEq, Repr, Inhabited

/-- The binding of a deployment. The priority ranks deployments for routing and is only kept. -/
structure Assignment where
  targetGroupId : String
  priority : Int
  diagnostics : List Diagnostic
  deriving DecidableEq, Repr, Inhabited

structure Deployment where
  id : String
  provider : Provider
  functionUrl : Option String
  diagnostics : List Diagnostic
  assignment : Option Assignment
  deriving DecidableEq, Repr, Inhabited

namespace Deployment

def isAssigned (d : Deployment) : Bool :=
  d.assignment.isSome

def assignedTo (d : Deployment) (targetGroupId : String) : Bool :=
  d.assignment.any fun a => a.targetGroupId = targetGroupId

/-- The assignment to a group, which takes over the diagnostics of the deployment. -/
def assignmentFor (d : Deployment) (targetGroupId : String) (priority : Int) : Assignment :=
  ⟨targetGroupId, priority, d.diagnostics⟩

end Deployment

end AccessGrants
