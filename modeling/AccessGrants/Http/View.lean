import AccessGrants.Document.Models
import AccessGrants.Store.Basic

/-!
# AccessGrants.Http.View

The documents that callers get. Times of records are texts with an explicit offset of zero, and
what is absent is left out.

* `View.page`  — a page, with the token of the next one.
* `View.targetGroup`, `View.preflight`, `View.request` — the three kinds of records with times.
-/

namespace AccessGrants.View

def time (t : Instant) : Json :=
  .string (Rfc3339.renderZeroOffset t)

/-- A field that is left out when it has no value. -/
def optional (name : String) (value : Option Json) : List (String × Json) :=
  (value.map fun v => (name, v)).toList

def page (item : α → Json) (p : Page α) : Json :=
  Json.ofFields
    ([("items", .array (p.items.map item))] ++ optional "next_token" (p.next.map Json.string))

def targetGroup (g : TargetGroup) : Json :=
  Json.ofFields
    [("id", .string g.id), ("target_schema", g.targetSchema.toJson),
      ("created_at", time g.createdAt), ("updated_at", time g.updatedAt)]

def preflight (p : Preflight) : Json :=
  Json.ofFields
    ([("id", .string p.id), ("user_id", .string p.userId),
      ("requested_targets", Json.ofStrings p.requestedTargets),
      ("access_groups", .array (p.accessGroups.map PreflightGroup.toJson)),
      ("created_at", time p.createdAt)] ++ optional "consumed_at" (p.consumedAt.map time))

def request (r : AccessRequest) : Json :=
  Json.ofFields
    [("id", .string r.id), ("preflight_id", .string r.preflightId),
      ("requested_by", r.requestedBy.toJson), ("reason", Json.ofOption .string r.reason),
      ("groups", .array (r.groups.map AccessGroup.toJson)), ("reviewers", r.reviewers.toJson),
      ("created_at", time r.createdAt), ("updated_at", time r.updatedAt)]

def link (targetGroupId deploymentId : String) (priority : Int) : Json :=
  Json.ofFields
    [("target_group_id", .string targetGroupId), ("deployment_id", .string deploymentId),
      ("priority", .int priority)]

end AccessGrants.View
