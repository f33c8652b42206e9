import AccessGrants.Policy
import AccessGrants.Service.Compatibility

/-!
# AccessGrants.Service.Bindings

Target groups and the deployments bound to them.

* `createTargetGroup`  — captures the schema of a provider under a new id.
* `registerDeployment` — writes a deployment and leaves its binding as it is.
* `linkDeployment`     — binds a free deployment to a free target group.
* `unlinkDeployment`   — undoes a binding.
-/

namespace AccessGrants.Bindings

def groupName (id : String) : String :=
  "target group " ++ id

def createTargetGroup (id schemaRef : String) : Service TargetGroup := do
  if (← Service.store (.getTargetGroup id)).isSome then throw (.alreadyExists (groupName id))
  match Provider.parse schemaRef with
  | .error e => throw (.invalidReference e)
  | .ok provider =>
    let schema ← Compatibility.targetSchema provider
    let group := TargetGroup.create id ⟨schemaRef, schema⟩ (← Service.now)
    match ← Service.ask (.store (.insertTargetGroup group)) with
    | .ok () => return group
    | .error .conditionFailed => throw (.alreadyExists (groupName id))
    | .error e => throw (.store e)

def getTargetGroup (id : String) : Service TargetGroup := do
  Service.orNotFound (groupName id) (← Service.store (.getTargetGroup id))

def listTargetGroups (page : Option String) : Service (Page TargetGroup) :=
  Service.store (.listTargetGroups page)

/-- Fails unless a provider declares the schema of a group. -/
def ensureCompatible (group : TargetGroup) (provider : Provider) : Service Unit := do
  let schema ← Compatibility.targetSchema provider
  if schema.Equivalent group.targetSchema.schema then return ()
  else throw (.incompatibleSchema group.id provider.render)

/-- The condition under which a registration may be written, for the deployment that was read. Only
enforced validation and a new provider need one: the binding must still be what it was. -/
def registrationGuard (validation : SchemaValidation) (existing : Option Deployment)
    (deployment : Deployment) : Service AssignmentGuard := do
  let providerChanged := existing.all fun e => e.provider ≠ deployment.provider
  if validation ≠ .enforced ∨ ¬ providerChanged then return .any
  else
    match existing.bind (·.assignment) with
    | none => return .unassigned
    | some assignment =>
      let group ← getTargetGroup assignment.targetGroupId
      ensureCompatible group deployment.provider
      return .assignedTo group.id

/-- Reads, checks and writes, and starts again when the binding changed in between. -/
def registerWithin (validation : SchemaValidation) (deployment : Deployment) :
    Nat → Service Deployment
  | 0 => throw (.store .conditionFailed)
  | attempts + 1 => do
    let existing ← Service.store (.getDeployment deployment.id)
    let guard ← registrationGuard validation existing deployment
    match ← Service.ask (.store (.upsertDeployment deployment guard)) with
    | .ok stored => return stored
    | .error .conditionFailed => registerWithin validation deployment attempts
    | .error e => throw (.store e)

def registerAttempts : Nat := 3

def registerDeployment (validation : SchemaValidation) (deployment : Deployment) :
    Service Deployment :=
  registerWithin validation deployment registerAttempts

/-- Answers the target group. Whichever side is bound already is reported with the group of that
binding. -/
def linkDeployment (validation : SchemaValidation) (targetGroupId deploymentId : String)
    (priority : Int) : Service TargetGroup := do
  let group ← getTargetGroup targetGroupId
  let deployment ← Service.orNotFound ("deployment " ++ deploymentId)
    (← Service.store (.getDeployment deploymentId))
  if (← Service.store (.findDeployment targetGroupId)).isSome then
    throw (.alreadyLinked targetGroupId)
  match deployment.assignment with
  | some assignment => throw (.alreadyLinked assignment.targetGroupId)
  | none =>
    if validation = .enforced then ensureCompatible group deployment.provider
    let assignment := deployment.assignmentFor targetGroupId priority
    let assign := StoreCall.assignDeployment deploymentId deployment.provider assignment
    match ← Service.ask (.store assign) with
    | .ok _ => return group
    | .error .conditionFailed => throw (.alreadyLinked targetGroupId)
    | .error e => throw (.store e)

def unlinkDeployment (targetGroupId deploymentId : String) : Service Deployment := do
  match ← Service.ask (.store (.clearAssignment deploymentId targetGroupId)) with
  | .ok deployment => return deployment
  | .error .conditionFailed =>
    throw (.notFound ("deployment " ++ deploymentId ++ " linked to " ++ groupName targetGroupId))
  | .error e => throw (.store e)

end AccessGrants.Bindings
