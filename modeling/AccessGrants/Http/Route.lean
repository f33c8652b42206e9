import AccessGrants.Http.Request
import AccessGrants.Text.Split

/-!
# AccessGrants.Http.Route

The paths that the service knows. Parameters are kept as they are written in the path.

* `Route`          — a known path with its parameters.
* `Route.ofPath?`  — the route of a path. A parameter may be empty unless it ends the path.
* `Route.template` — the path with names in place of its parameters.
-/

namespace AccessGrants

inductive Route where
  | health
  | ready
  | metrics
  | targetGroups
  | targets
  | argOptions (providerId argId : String)
  | preflights
  | preflight (id : String)
  | requests
  | request (id : String)
  | revocation (id : String)
  | adminTargetGroups
  | adminTargetGroup (id : String)
  | adminLinks (id : String)
  | adminLink (id deploymentId : String)
  | adminDeployments
  | adminTarget (id : String)
  | adminRequests
  deriving DecidableEq, Repr, Inhabited

namespace Route

/-- The route of the segments between the slashes. -/
def ofSegments? : List String → Option Route
  | ["health"] => some health
  | ["ready"] => some ready
  | ["metrics"] => some metrics
  | ["v1", "target-groups"] => some targetGroups
  | ["v1", "targets"] => some targets
  | ["v1", "providers", providerId, "args", argId, "options"] =>
    some (argOptions providerId argId)
  | ["v1", "preflights"] => some preflights
  | ["v1", "preflights", id] => if id = "" then none else some (preflight id)
  | ["v1", "requests"] => some requests
  | ["v1", "requests", id] => if id = "" then none else some (request id)
  | ["v1", "requests", id, "revoke"] => some (revocation id)
  | ["v1", "admin", "target-groups"] => some adminTargetGroups
  | ["v1", "admin", "target-groups", id] => if id = "" then none else some (adminTargetGroup id)
  | ["v1", "admin", "target-groups", id, "links"] => some (adminLinks id)
  | ["v1", "admin", "target-groups", id, "links", deploymentId] =>
    if deploymentId = "" then none else some (adminLink id deploymentId)
  | ["v1", "admin", "deployments"] => some adminDeployments
  | ["v1", "admin", "targets", id] => if id = "" then none else some (adminTarget id)
  | ["v1", "admin", "requests"] => some adminRequests
  | _ => none

def ofPath? (path : String) : Option Route :=
  match path.toList with
  | '/' :: rest => ofSegments? ((Text.split '/' rest).map String.ofList)
  | _ => none

def template : Route → String
  | health => "/health"
  | ready => "/ready"
  | metrics => "/metrics"
  | targetGroups => "/v1/target-groups"
  | targets => "/v1/targets"
  | argOptions _ _ => "/v1/providers/:provider_id/args/:arg_id/options"
  | preflights => "/v1/preflights"
  | preflight _ => "/v1/preflights/:id"
  | requests => "/v1/requests"
  | request _ => "/v1/requests/:id"
  | revocation _ => "/v1/requests/:id/revoke"
  | adminTargetGroups => "/v1/admin/target-groups"
  | adminTargetGroup _ => "/v1/admin/target-groups/:id"
  | adminLinks _ => "/v1/admin/target-groups/:id/links"
  | adminLink _ _ => "/v1/admin/target-groups/:id/links/:deployment_id"
  | adminDeployments => "/v1/admin/deployments"
  | adminTarget _ => "/v1/admin/targets/:id"
  | adminRequests => "/v1/admin/requests"

end Route

end AccessGrants
