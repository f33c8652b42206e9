import AccessGrants.ArgOptions
import AccessGrants.Document.Record
import AccessGrants.Preflight
import AccessGrants.Request
import AccessGrants.TargetGroup
import AccessGrants.Time.Rfc3339

/-!
# AccessGrants.Document.Models

The documents that the domain types are stored as: for every type a writer `toJson` and a reader
`read`. Times of records are dates in milliseconds, times of grants are texts of full precision.
-/

namespace AccessGrants

open Record (required nullable defaulted)

namespace Instant

/-- A date: milliseconds in a text, rounded down. -/
def toDate (t : Instant) : Json :=
  Json.ofFields [("$date", Json.ofFields [("$numberLong", .string (toString t.toMillis))])]

def readMillis (text : String) : Except Fault Instant :=
  match Text.parseSigned Word.leastSigned Word.greatestSigned text with
  | .ok millis => .ok (ofMillis millis)
  | .error _ => .error .mismatch

/-- Reads a date in milliseconds, as a field or alone in a list, or in the notation of RFC 3339. -/
def readDate : Decoder Instant
  | .object [("$date", .object [("$numberLong", .string s)] true)] true => readMillis s
  | .object [("$date", .array [.string s] true)] true => readMillis s
  | .object [("$date", .string s)] true =>
    match Rfc3339.parseStrict? s with
    | some millis => .ok (ofMillis millis)
    | none => .error .mismatch
  | d => Decoder.refuse d

def toJson (t : Instant) : Json :=
  .string (Rfc3339.render t)

def read : Decoder Instant := fun d => do
  match Rfc3339.parse? (← Decoder.text d) with
  | some t => .ok t
  | none => .error .mismatch

end Instant

namespace Names

def toJson (names : Names) : Json :=
  Json.ofStrings names.toList

end Names

namespace Parameters

def toJson (p : Parameters) : Json :=
  Json.ofFields (p.toList.map fun (k, v) => (k, .string v))

end Parameters

namespace Provider

def toJson (p : Provider) : Json :=
  Json.ofFields
    [("publisher", .string p.publisher), ("name", .string p.name), ("version", .string p.version)]

def record : Record Provider :=
  Provider.mk <$> required "publisher" Decoder.text <*> required "name" Decoder.text
    <*> required "version" Decoder.text

def read : Decoder Provider := record.decode

end Provider

namespace ProviderDetail

def schemaToJson (target : Json) : Json :=
  Json.ofFields [("target", target)]

def readSchema : Decoder Json :=
  (required "target" Decoder.json).decode

def toJson (d : ProviderDetail) : Json :=
  Json.ofFields
    [("publisher", .string d.provider.publisher), ("name", .string d.provider.name),
      ("version", .string d.provider.version), ("schema", schemaToJson d.target)]

def read : Decoder ProviderDetail :=
  (ProviderDetail.mk <$> Provider.record <*> required "schema" readSchema).decode

end ProviderDetail

namespace TargetSchema

def toJson (s : TargetSchema) : Json :=
  Json.ofFields [("from", .string s.source), ("schema", s.schema)]

def read : Decoder TargetSchema :=
  (TargetSchema.mk <$> required "from" Decoder.text
    <*> required "schema" Decoder.json).decode

end TargetSchema

namespace TargetGroup

def toJson (g : TargetGroup) : Json :=
  Json.ofFields
    [("id", .string g.id), ("target_schema", g.targetSchema.toJson),
      ("created_at", g.createdAt.toDate), ("updated_at", g.updatedAt.toDate)]

def read : Decoder TargetGroup :=
  (TargetGroup.mk <$> required "id" Decoder.text <*> required "target_schema" TargetSchema.read
    <*> required "created_at" Instant.readDate <*> required "updated_at" Instant.readDate).decode

end TargetGroup

namespace DiagnosticLevel

def text : DiagnosticLevel → String
  | info => "info"
  | warning => "warning"
  | error => "error"

def ofText? (s : String) : Option DiagnosticLevel :=
  if s = "info" then some info
  else if s = "warning" then some warning
  else if s = "error" then some error
  else none

end DiagnosticLevel

namespace Diagnostic

def toJson (d : Diagnostic) : Json :=
  Json.ofFields [("level", .string d.level.text), ("message", .string d.message)]

def read : Decoder Diagnostic :=
  (Diagnostic.mk <$> required "level" (Decoder.word DiagnosticLevel.ofText?)
    <*> required "message" Decoder.text).decode

end Diagnostic

namespace Assignment

def toJson (a : Assignment) : Json :=
  Json.ofFields
    [("target_group_id", .string a.targetGroupId), ("priority", .int a.priority),
      ("diagnostics", .array (a.diagnostics.map Diagnostic.toJson))]

def read : Decoder Assignment :=
  (Assignment.mk <$> required "target_group_id" Decoder.text <*> required "priority" Decoder.int32
    <*> defaulted "diagnostics" (Decoder.list Diagnostic.read) []).decode

end Assignment

namespace Deployment

def toJson (d : Deployment) : Json :=
  Json.ofFields
    [("id", .string d.id), ("provider", d.provider.toJson),
      ("function_url", Json.ofOption .string d.functionUrl),
      ("diagnostics", .array (d.diagnostics.map Diagnostic.toJson)),
      ("target_group_assignment", Json.ofOption Assignment.toJson d.assignment)]

def read : Decoder Deployment :=
  (Deployment.mk <$> required "id" Decoder.text <*> required "provider" Provider.read
    <*> nullable "function_url" Decoder.text
    <*> defaulted "diagnostics" (Decoder.list Diagnostic.read) []
    <*> nullable "target_group_assignment" Assignment.read).decode

end Deployment

namespace Target

def toJson (t : Target) : Json :=
  Json.ofFields
    [("id", .string t.id), ("target_group_id", .string t.targetGroupId),
      ("access_rule", .string t.accessRule), ("fields", t.fields.toJson),
      ("groups", t.groups.toJson), ("reviewers", t.reviewers.toJson)]

def read : Decoder Target :=
  (Target.mk <$> required "id" Decoder.text <*> required "target_group_id" Decoder.text
    <*> required "access_rule" Decoder.text <*> defaulted "fields" Decoder.parameters ∅
    <*> defaulted "groups" Decoder.names ∅ <*> defaulted "reviewers" Decoder.names ∅).decode

end Target

namespace ArgOption

def toJson (o : ArgOption) : Json :=
  Json.ofFields
    [("value", .string o.value), ("label", .string o.label),
      ("description", Json.ofOption .string o.description), ("groups", o.groups.toJson)]

def read : Decoder ArgOption :=
  (ArgOption.mk <$> required "value" Decoder.text <*> required "label" Decoder.text
    <*> nullable "description" Decoder.text <*> defaulted "groups" Decoder.names ∅).decode

end ArgOption

namespace ArgOptionGroup

def toJson (g : ArgOptionGroup) : Json :=
  Json.ofFields
    [("id", .string g.id), ("title", .string g.title),
      ("options", .array (g.options.map ArgOption.toJson))]

def read : Decoder ArgOptionGroup :=
  (ArgOptionGroup.mk <$> required "id" Decoder.text <*> required "title" Decoder.text
    <*> required "options" (Decoder.list ArgOption.read)).decode

end ArgOptionGroup

namespace ArgOptions

def fields (o : ArgOptions) : List (String × Json) :=
  [("options", .array (o.options.map ArgOption.toJson)),
    ("grouped_options", .array (o.grouped.map ArgOptionGroup.toJson))]

def toJson (o : ArgOptions) : Json :=
  Json.ofFields o.fields

def read : Decoder ArgOptions :=
  (ArgOptions.mk <$> defaulted "options" (Decoder.list ArgOption.read) []
    <*> defaulted "grouped_options" (Decoder.list ArgOptionGroup.read) []).decode

end ArgOptions

namespace CachedArgOptions

def toJson (c : CachedArgOptions) : Json :=
  Json.ofFields ([("provider_id", .string c.providerId), ("arg_id", .string c.argId),
    ("fetched_at", c.fetchedAt.toDate)] ++ c.content.fields)

/-- In a document the two lists of options must be there. -/
def contentRecord : Record ArgOptions :=
  ArgOptions.mk <$> required "options" (Decoder.list ArgOption.read)
    <*> required "grouped_options" (Decoder.list ArgOptionGroup.read)

def read : Decoder CachedArgOptions :=
  (CachedArgOptions.mk <$> required "provider_id" Decoder.text <*> required "arg_id" Decoder.text
    <*> contentRecord <*> required "fetched_at" Instant.readDate).decode

end CachedArgOptions

namespace User

def toJson (u : User) : Json :=
  Json.ofFields [("id", .string u.id), ("email", .string u.email), ("groups", u.groups.toJson)]

def read : Decoder User :=
  (User.mk <$> required "id" Decoder.text <*> required "email" Decoder.text
    <*> defaulted "groups" Decoder.names ∅).decode

end User

namespace Requester

def toJson (r : Requester) : Json :=
  Json.ofFields [("id", .string r.id), ("email", .string r.email)]

def read : Decoder Requester :=
  (Requester.mk <$> required "id" Decoder.text <*> required "email" Decoder.text).decode

end Requester

namespace PreflightGroup

def toJson (g : PreflightGroup) : Json :=
  Json.ofFields
    [("id", .string g.id), ("access_rule", .string g.accessRule),
      ("targets", .array (g.targets.map Target.toJson))]

def read : Decoder PreflightGroup :=
  (PreflightGroup.mk <$> required "id" Decoder.text <*> required "access_rule" Decoder.text
    <*> required "targets" (Decoder.list Target.read)).decode

end PreflightGroup

namespace Preflight

def toJson (p : Preflight) : Json :=
  Json.ofFields
    [("id", .string p.id), ("user_id", .string p.userId),
      ("requested_targets", Json.ofStrings p.requestedTargets),
      ("access_groups", .array (p.accessGroups.map PreflightGroup.toJson)),
      ("created_at", p.createdAt.toDate),
      ("consumed_at", Json.ofOption Instant.toDate p.consumedAt)]

def read : Decoder Preflight :=
  (Preflight.mk <$> required "id" Decoder.text <*> required "user_id" Decoder.text
    <*> required "requested_targets" (Decoder.list Decoder.text)
    <*> required "access_groups" (Decoder.list PreflightGroup.read)
    <*> required "created_at" Instant.readDate
    <*> defaulted "consumed_at" (Decoder.nullable Instant.readDate) none).decode

end Preflight

namespace GrantStatus

/-- The name of a status in documents. -/
def name : GrantStatus → String
  | active => "ACTIVE"
  | expired => "EXPIRED"
  | revoked => "REVOKED"

def ofName? (s : String) : Option GrantStatus :=
  if s = "ACTIVE" then some active
  else if s = "EXPIRED" then some expired
  else if s = "REVOKED" then some revoked
  else none

end GrantStatus

namespace Grant

def toJson (g : Grant) : Json :=
  Json.ofFields
    [("id", .string g.id), ("access_group_id", .string g.accessGroupId),
      ("target_id", .string g.targetId), ("target_group_id", .string g.targetGroupId),
      ("with", g.parameters.toJson), ("access_rule", .string g.accessRule),
      ("requested_by", .string g.requestedBy), ("subject", .string g.subject),
      ("status", .string g.status.name), ("start", g.start.toJson), ("end", g.stop.toJson),
      ("revoked_by", Json.ofOption .string g.revokedBy)]

def read : Decoder Grant :=
  (Grant.mk <$> required "id" Decoder.text <*> required "access_group_id" Decoder.text
    <*> required "target_id" Decoder.text <*> required "target_group_id" Decoder.text
    <*> required "with" Decoder.parameters <*> required "access_rule" Decoder.text
    <*> required "requested_by" Decoder.text <*> required "subject" Decoder.text
    <*> required "status" (Decoder.word GrantStatus.ofName?)
    <*> required "start" Instant.read <*> required "end" Instant.read
    <*> nullable "revoked_by" Decoder.text).decode

end Grant

namespace AccessGroup

def toJson (g : AccessGroup) : Json :=
  Json.ofFields
    [("id", .string g.id), ("request_id", .string g.requestId),
      ("access_rule", .string g.accessRule), ("targets", .array (g.targets.map Target.toJson)),
      ("duration_seconds", .int g.durationSeconds), ("grants", .array (g.grants.map Grant.toJson))]

def read : Decoder AccessGroup :=
  (AccessGroup.mk <$> required "id" Decoder.text <*> required "request_id" Decoder.text
    <*> required "access_rule" Decoder.text <*> required "targets" (Decoder.list Target.read)
    <*> required "duration_seconds" Decoder.int64
    <*> defaulted "grants" (Decoder.list Grant.read) []).decode

end AccessGroup

namespace AccessRequest

def toJson (r : AccessRequest) : Json :=
  Json.ofFields
    [("id", .string r.id), ("preflight_id", .string r.preflightId),
      ("requested_by", r.requestedBy.toJson), ("reason", Json.ofOption .string r.reason),
      ("groups", .array (r.groups.map AccessGroup.toJson)), ("reviewers", r.reviewers.toJson),
      ("created_at", r.createdAt.toDate), ("updated_at", r.updatedAt.toDate)]

def read : Decoder AccessRequest :=
  (AccessRequest.mk <$> required "id" Decoder.text <*> required "preflight_id" Decoder.text
    <*> required "requested_by" Requester.read <*> nullable "reason" Decoder.text
    <*> required "groups" (Decoder.list AccessGroup.read)
    <*> defaulted "reviewers" Decoder.names ∅
    <*> required "created_at" Instant.readDate <*> required "updated_at" Instant.readDate).decode

end AccessRequest

end AccessGrants
