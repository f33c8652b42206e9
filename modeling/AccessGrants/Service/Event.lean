import AccessGrants.Json.Basic

/-!
# AccessGrants.Service.Event

What the services tell others: events for the notification layer and counters for the metrics.

* `AccessEvent` — a request was created, or one of its grants was revoked.
* `Metric`      — a counter and how much is added to it.
-/

namespace AccessGrants

inductive AccessEvent where
  | requestCreated (requestId requestedBy : String) (grantIds : List String)
  | grantRevoked (requestId grantId revokedBy : String)
  deriving DecidableEq, Repr

namespace AccessEvent

def toJson : AccessEvent → Json
  | requestCreated requestId requestedBy grantIds =>
    Json.ofFields
      [("type", .string "request_created"), ("request_id", .string requestId),
        ("requested_by", .string requestedBy), ("grant_ids", Json.ofStrings grantIds)]
  | grantRevoked requestId grantId revokedBy =>
    Json.ofFields
      [("type", .string "grant_revoked"), ("request_id", .string requestId),
        ("grant_id", .string grantId), ("revoked_by", .string revokedBy)]

end AccessEvent

inductive PreflightOutcome where
  | invalid
  | duplicate
  | unauthorized
  | created
  deriving DecidableEq, Repr

inductive RequestOutcome where
  | invalid
  | preflightConsumed
  | grantFailed
  | created
  deriving DecidableEq, Repr

inductive RefreshOutcome where
  | error
  | missing
  | refreshed
  deriving DecidableEq, Repr

namespace PreflightOutcome

def label : PreflightOutcome → String
  | invalid => "invalid"
  | duplicate => "duplicate"
  | unauthorized => "unauthorized"
  | created => "created"

end PreflightOutcome

namespace RequestOutcome

def label : RequestOutcome → String
  | invalid => "invalid"
  | preflightConsumed => "preflight_consumed"
  | grantFailed => "grant_failed"
  | created => "created"

end RequestOutcome

namespace RefreshOutcome

def label : RefreshOutcome → String
  | error => "error"
  | missing => "missing"
  | refreshed => "refreshed"

end RefreshOutcome

inductive Metric where
  | preflight (outcome : PreflightOutcome)
  | request (outcome : RequestOutcome)
  | grantsIssued (count : Nat)
  | grantsRevoked (count : Nat)
  | optionRefresh (outcome : RefreshOutcome)
  | httpRequest (method route : String) (status : Nat)
  deriving DecidableEq, Repr

namespace Metric

/-- A counter's name with its labels in braces. -/
def labelled (name : String) (labels : List (String × String)) : String :=
  name ++ "\x7b" ++ ",".intercalate (labels.map fun (k, v) => k ++ "=\"" ++ v ++ "\"") ++ "\x7d"

def key : Metric → String
  | preflight outcome => labelled "access_preflights_total" [("outcome", outcome.label)]
  | request outcome => labelled "access_requests_total" [("outcome", outcome.label)]
  | grantsIssued _ => "access_grants_issued_total"
  | grantsRevoked _ => "access_grants_revoked_total"
  | optionRefresh outcome =>
    labelled "access_arg_option_refresh_total" [("outcome", outcome.label)]
  | httpRequest method route status =>
    labelled "http_requests_total"
      [("method", method), ("route", route), ("status", Nat.repr status)]

def amount : Metric → Nat
  | grantsIssued n => n
  | grantsRevoked n => n
  | preflight _ | request _ | optionRefresh _ | httpRequest _ _ _ => 1

end Metric

end AccessGrants
