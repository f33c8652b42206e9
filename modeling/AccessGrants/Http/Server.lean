import AccessGrants.Http.Handler
import AccessGrants.Http.Route
import AccessGrants.Http.View
import AccessGrants.Service.Bindings
import AccessGrants.Service.Catalogue
import AccessGrants.Service.Preflights
import AccessGrants.Service.Requests

/-!
# AccessGrants.Http.Server

The service behind its paths. Every handler looks at the caller first, then at the path, then at the
query or the body, and then at the rights of the caller.

* `Server.handler?` — the handler of a route for a method.
* `Server.serve`    — answers a request and counts it.
-/

namespace AccessGrants

/-- What an operator has chosen for the services. -/
structure ServiceRules where
  schemaValidation : SchemaValidation
  policy : GrantPolicy
  deriving DecidableEq, Repr, Inhabited

/-- `requestId` is the id that the caller gave. Without one a fresh id is sent. -/
structure HttpResponse where
  status : Nat
  content : Content
  requestId : Option String
  deriving DecidableEq, Inhabited

namespace Server

open Handler (caller parameter query body requireAdmin run)

def health : Answer :=
  .ok (Json.ofFields
    [("status", .string "ok"), ("service", .string "access-service"),
      ("version", .string "0.1.0")])

/-- Whether the store is reached. -/
def ready : Handler Answer := do
  match ← ExceptT.lift (Proc.ask (.store .healthCheck)) with
  | .ok () => return .ok (Json.ofFields [("status", .string "ready")])
  | .error _ => return ⟨503, .json (Json.ofFields [("status", .string "unavailable")])⟩

/-- What is shown as long as nothing records the counters. With a recorder its own text is shown,
which is left out here. -/
def metrics : Answer :=
  .plain 200 "# Metrics recorder not initialized\n"

/-- Open to every caller, also below the paths of the administrators. -/
def listTargetGroups (r : HttpRequest) : Handler Answer := do
  let _ ← caller r
  let token ← query (Query.page r.query)
  return .ok (View.page View.targetGroup (← run (Bindings.listTargetGroups token)))

def createTargetGroup (r : HttpRequest) : Handler Answer := do
  let user ← caller r
  let form ← body r TargetGroupForm.form
  requireAdmin user
  return .created (View.targetGroup (← run (Bindings.createTargetGroup form.id form.targetSchema)))

def getTargetGroup (r : HttpRequest) (id : String) : Handler Answer := do
  let user ← caller r
  let id ← parameter "id" id
  requireAdmin user
  return .ok (View.targetGroup (← run (Bindings.getTargetGroup id)))

def linkDeployment (rules : ServiceRules) (r : HttpRequest) (id : String) : Handler Answer := do
  let user ← caller r
  let id ← parameter "id" id
  let form ← body r LinkForm.form
  requireAdmin user
  let group ←
    run (Bindings.linkDeployment rules.schemaValidation id form.deploymentId form.priority)
  return .ok (View.link group.id form.deploymentId form.priority)

def unlinkDeployment (r : HttpRequest) (id deploymentId : String) : Handler Answer := do
  let user ← caller r
  let id ← parameter "id" id
  let deploymentId ← parameter "deployment_id" deploymentId
  requireAdmin user
  return .ok (← run (Bindings.unlinkDeployment id deploymentId)).toJson

def registerDeployment (rules : ServiceRules) (r : HttpRequest) : Handler Answer := do
  let user ← caller r
  let form ← body r DeploymentForm.form
  requireAdmin user
  match Provider.parse form.provider with
  | .error e => run (throw (.invalidReference e))
  | .ok provider =>
    let stored ←
      run (Bindings.registerDeployment rules.schemaValidation (form.deployment provider))
    return .created stored.toJson

def listTargets (r : HttpRequest) : Handler Answer := do
  let user ← caller r
  let token ← query (Query.page r.query)
  return .ok (View.page Target.toJson (← run (Catalogue.listTargets user token)))

def putTarget (r : HttpRequest) (id : String) : Handler Answer := do
  let user ← caller r
  let id ← parameter "id" id
  let form ← body r TargetForm.form
  requireAdmin user
  return .ok (← run (Catalogue.putTarget (form.target id))).toJson

def listArgOptions (r : HttpRequest) (providerId argId : String) : Handler Answer := do
  let user ← caller r
  let providerId ← parameter "provider_id" providerId
  let argId ← parameter "arg_id" argId
  let refresh ← query (Query.refresh r.query)
  return .ok (← run (ArgOptionCache.listFor user providerId argId refresh)).toJson

def createPreflight (r : HttpRequest) : Handler Answer := do
  let user ← caller r
  let form ← body r PreflightForm.form
  return .created (View.preflight (← run (Preflights.createPreflight user form.targets)))

def getPreflight (r : HttpRequest) (id : String) : Handler Answer := do
  let user ← caller r
  let id ← parameter "id" id
  return .ok (View.preflight (← run (Preflights.getPreflight user id)))

def createRequest (rules : ServiceRules) (r : HttpRequest) : Handler Answer := do
  let user ← caller r
  let submission ← body r Submission.form
  return .created (View.request (← run (Requests.createRequest rules.policy user submission)))

def getRequest (r : HttpRequest) (id : String) : Handler Answer := do
  let user ← caller r
  let id ← parameter "id" id
  return .ok (View.request (← run (Requests.getRequestFor user id)))

def revokeRequest (r : HttpRequest) (id : String) : Handler Answer := do
  let user ← caller r
  let id ← parameter "id" id
  return .ok (View.request (← run (Requests.revokeRequest user id)))

def listOwnRequests (r : HttpRequest) : Handler Answer := do
  let user ← caller r
  let token ← query (Query.page r.query)
  return .ok (View.page View.request (← run (Requests.listRequestsFor user token)))

def listAllRequests (r : HttpRequest) : Handler Answer := do
  let user ← caller r
  let token ← query (Query.page r.query)
  requireAdmin user
  return .ok (View.page View.request (← run (Requests.listRequests token)))

/-- The handler of a route; none when the route does not have the method. -/
def handler? (rules : ServiceRules) (r : HttpRequest) : Route → Method → Option (Handler Answer)
  | .health, .get => some (return health)
  | .ready, .get => some ready
  | .metrics, .get => some (return metrics)
  | .targetGroups, .get => some (listTargetGroups r)
  | .targets, .get => some (listTargets r)
  | .argOptions providerId argId, .get => some (listArgOptions r providerId argId)
  | .preflights, .post => some (createPreflight r)
  | .preflight id, .get => some (getPreflight r id)
  | .requests, .post => some (createRequest rules r)
  | .requests, .get => some (listOwnRequests r)
  | .request id, .get => some (getRequest r id)
  | .revocation id, .post => some (revokeRequest r id)
  | .adminTargetGroups, .post => some (createTargetGroup r)
  | .adminTargetGroups, .get => some (listTargetGroups r)
  | .adminTargetGroup id, .get => some (getTargetGroup r id)
  | .adminLinks id, .post => some (linkDeployment rules r id)
  | .adminLink id deploymentId, .delete => some (unlinkDeployment r id deploymentId)
  | .adminDeployments, .post => some (registerDeployment rules r)
  | .adminTarget id, .put => some (putTarget r id)
  | .adminRequests, .get => some (listAllRequests r)
  | _, _ => none

/-- The method whose handler answers. -/
def handling : Method → Method
  | .head => .get
  | m => m

def answerOf : Except Refusal Answer → Answer
  | .ok answer => answer
  | .error refusal => refusal.answer

/-- The answer to a request: 404 for an unknown path, and 405 for a method that a path does not
have. -/
def answer (rules : ServiceRules) (r : HttpRequest) : Proc Answer :=
  match Route.ofPath? r.path with
  | none => return .plain 404 ""
  | some route =>
    match handler? rules r route (handling r.method) with
    | none => return .plain 405 ""
    | some handler => return answerOf (← ExceptT.run handler)

/-- The label of a path in the counters. -/
def routeLabel (path : String) : String :=
  ((Route.ofPath? path).map Route.template).getD "unmatched"

def serve (rules : ServiceRules) (r : HttpRequest) : Proc HttpResponse := do
  let found ← answer rules r
  Proc.ask (.count (.httpRequest r.method.name (routeLabel r.path) found.status))
  let content := if r.method = .head then .text "" else found.content
  return ⟨found.status, content, r.requestId?⟩

end Server

end AccessGrants
