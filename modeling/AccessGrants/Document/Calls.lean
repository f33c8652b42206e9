import AccessGrants.Document.Models
import AccessGrants.Store.Call

/-!
# AccessGrants.Document.Calls

Store calls as documents, so that calls can be written down and carried out again.

* `StoreCall.name`       — what a call is called.
* `StoreCall.ofName?`    — the reader of the arguments of a call.
* `StoreCall.valueToJson`— what a call answers.
-/

namespace AccessGrants

open Record (required nullable)

namespace Page

def toJson (item : α → Json) (p : Page α) : Json :=
  Json.ofFields [("items", .array (p.items.map item)), ("next", Json.ofOption .string p.next)]

end Page

namespace AssignmentGuard

/-- A word, or an object with the target group. -/
def read : Decoder AssignmentGuard
  | .string "Any" => .ok any
  | .string "Unassigned" => .ok unassigned
  | d => (assignedTo <$> required "AssignedTo" Decoder.text).decode d

end AssignmentGuard

namespace StoreCall

def name : StoreCall → String
  | healthCheck => "health_check"
  | getTargetGroup _ => "get_target_group"
  | listTargetGroups _ => "list_target_groups"
  | insertTargetGroup _ => "insert_target_group"
  | getDeployment _ => "get_deployment"
  | upsertDeployment _ _ => "upsert_deployment"
  | findDeployment _ => "find_deployment_for_target_group"
  | assignDeployment _ _ _ => "assign_deployment"
  | clearAssignment _ _ => "clear_deployment_assignment"
  | putPreflight _ => "put_preflight"
  | getPreflight _ _ => "get_preflight"
  | claimPreflight _ _ _ => "claim_preflight"
  | putRequest _ => "put_request"
  | getRequest _ => "get_request"
  | listRequestsFor _ _ => "list_requests_for_user"
  | listRequests _ => "list_requests"
  | getTarget _ => "get_cached_target"
  | putTarget _ => "put_cached_target"
  | listTargets _ => "list_cached_targets"
  | getArgOptions _ _ => "get_arg_options"
  | putArgOptions _ => "put_arg_options"

def textField (field : String) : Record String :=
  required field Decoder.text

def pageField : Record (Option String) :=
  nullable "page" Decoder.text

/-- The arguments of the call of a name. -/
def ofName? (name : String) : Option (Record StoreCall) :=
  match name with
  | "health_check" => some ⟨[], fun _ => .ok healthCheck⟩
  | "get_target_group" => some (getTargetGroup <$> textField "id")
  | "list_target_groups" => some (listTargetGroups <$> pageField)
  | "insert_target_group" => some (insertTargetGroup <$> required "group" TargetGroup.read)
  | "get_deployment" => some (getDeployment <$> textField "id")
  | "upsert_deployment" =>
    some (upsertDeployment <$> required "deployment" Deployment.read
      <*> required "guard" AssignmentGuard.read)
  | "find_deployment_for_target_group" => some (findDeployment <$> textField "target_group_id")
  | "assign_deployment" =>
    some (assignDeployment <$> textField "deployment_id" <*> required "provider" Provider.read
      <*> required "assignment" Assignment.read)
  | "clear_deployment_assignment" =>
    some (clearAssignment <$> textField "deployment_id" <*> textField "target_group_id")
  | "put_preflight" => some (putPreflight <$> required "preflight" Preflight.read)
  | "get_preflight" => some (getPreflight <$> textField "id" <*> textField "user_id")
  | "claim_preflight" =>
    some (claimPreflight <$> textField "id" <*> textField "user_id"
      <*> required "now" Instant.read)
  | "put_request" => some (putRequest <$> required "request" AccessRequest.read)
  | "get_request" => some (getRequest <$> textField "id")
  | "list_requests_for_user" => some (listRequestsFor <$> textField "user_id" <*> pageField)
  | "list_requests" => some (listRequests <$> pageField)
  | "get_cached_target" => some (getTarget <$> textField "id")
  | "put_cached_target" => some (putTarget <$> required "target" Target.read)
  | "list_cached_targets" => some (listTargets <$> pageField)
  | "get_arg_options" => some (getArgOptions <$> textField "provider_id" <*> textField "arg_id")
  | "put_arg_options" => some (putArgOptions <$> required "options" CachedArgOptions.read)
  | _ => none

/-- What a call answers; null where there is nothing to answer. -/
def valueToJson : (c : StoreCall) → c.Value → Json
  | healthCheck, _ => .null
  | insertTargetGroup _, _ => .null
  | putPreflight _, _ => .null
  | putRequest _, _ => .null
  | putTarget _, _ => .null
  | putArgOptions _, _ => .null
  | getTargetGroup _, v => Json.ofOption TargetGroup.toJson v
  | listTargetGroups _, v => Page.toJson TargetGroup.toJson v
  | getDeployment _, v => Json.ofOption Deployment.toJson v
  | upsertDeployment _ _, v => v.toJson
  | findDeployment _, v => Json.ofOption Deployment.toJson v
  | assignDeployment _ _ _, v => v.toJson
  | clearAssignment _ _, v => v.toJson
  | getPreflight _ _, v => Json.ofOption Preflight.toJson v
  | claimPreflight _ _ _, v => Json.ofOption Preflight.toJson v
  | getRequest _, v => Json.ofOption AccessRequest.toJson v
  | listRequestsFor _ _, v => Page.toJson AccessRequest.toJson v
  | listRequests _, v => Page.toJson AccessRequest.toJson v
  | getTarget _, v => Json.ofOption Target.toJson v
  | listTargets _, v => Page.toJson Target.toJson v
  | getArgOptions _ _, v => Json.ofOption CachedArgOptions.toJson v

end StoreCall

end AccessGrants
