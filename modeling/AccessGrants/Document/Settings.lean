import AccessGrants.Json.Basic
import AccessGrants.Settings

/-!
# AccessGrants.Document.Settings

The settings as a document, grouped as an operator reads them.

* `Environment.name`, `SchemaValidation.name` — the names that the document uses.
* `Settings.toJson`                           — the document.
-/

namespace AccessGrants

def Environment.name : Environment → String
  | dev => "Dev"
  | prod => "Prod"

def SchemaValidation.name : SchemaValidation → String
  | deferred => "Deferred"
  | enforced => "Enforced"

def Settings.toJson (s : Settings) : Json :=
  .ofFields
    [("port", .int s.port), ("environment", .string s.environment.name),
      ("log_level", .string s.logLevel), ("service_name", .string s.serviceName),
      ("mongodb", .ofFields [("uri", .string s.mongoUri), ("database", .string s.mongoDatabase),
        ("page_size", .int s.pageSize)]),
      ("registry", .ofFields [("url", .string s.registryUrl),
        ("timeout_secs", .int s.registryTimeout)]),
      ("arg_options_url", .string s.argOptionsUrl), ("admin_group", .string s.adminGroup),
      ("link_schema_validation", .string s.schemaValidation.name),
      ("default_duration_secs", .int s.policy.defaultDuration),
      ("max_duration_secs", .int s.policy.maxDuration),
      ("otlp_endpoint", .ofOption .string s.otlpEndpoint)]

end AccessGrants
