import AccessGrants.Json.Basic
import AccessGrants.Service.Error
import AccessGrants.Settings

/-!
# AccessGrants.Http.Error

Failures at the boundary of the service. Each one has a status, and a body that a caller may see:
failures of the server tell nothing but their category.

* `HttpError`           — the failures.
* `HttpError.status`, `HttpError.body` — what is answered.
* `HttpError.ofService` — the failure that a service error is answered with.
-/

namespace AccessGrants

/-- `validation` holds one line for every invalid field. -/
inductive HttpError where
  | validation (lines : List String)
  | badRequest (reason : String)
  | notFound (reason : String)
  | unauthorized (reason : String)
  | forbidden (reason : String)
  | conflict (reason : String)
  | internal (detail : String)
  | badGateway (detail : String)
  | serviceUnavailable
  | database (detail : String)
  | configuration (detail : String)
  deriving DecidableEq, Repr

namespace HttpError

def status : HttpError → Nat
  | validation _ => 422
  | badRequest _ => 400
  | notFound _ => 404
  | unauthorized _ => 401
  | forbidden _ => 403
  | conflict _ => 409
  | internal _ => 500
  | badGateway _ => 502
  | serviceUnavailable => 503
  | database _ => 500
  | configuration _ => 500

/-- The text that a caller sees. -/
def publicText : HttpError → String
  | validation _ => "Validation error"
  | badRequest reason => reason
  | notFound reason => reason
  | unauthorized reason => reason
  | forbidden reason => reason
  | conflict reason => reason
  | internal _ => "Internal server error"
  | badGateway _ => "Upstream service error"
  | serviceUnavailable => "Service unavailable"
  | database _ => "Database error"
  | configuration _ => "Configuration error"

/-- The details of a validation error stand here in a normal form, one item for each line and the
lines in order. They are sent as one text of these lines, in any order. -/
def body (e : HttpError) : Json :=
  match e with
  | validation lines =>
    Json.ofFields [("error", .string e.publicText), ("details", Json.ofStrings lines)]
  | _ => Json.ofFields [("error", .string e.publicText)]

/-- The text for the log, with every detail. -/
def message : HttpError → String
  | validation lines => "Validation error: " ++ "\n".intercalate lines
  | badRequest reason => "Bad request: " ++ reason
  | notFound reason => "Not found: " ++ reason
  | unauthorized reason => "Unauthorized: " ++ reason
  | forbidden reason => "Forbidden: " ++ reason
  | conflict reason => "Conflict: " ++ reason
  | internal detail => "Internal server error: " ++ detail
  | badGateway detail => "Bad Gateway: " ++ detail
  | serviceUnavailable => "Service Unavailable"
  | database detail => "Database error: " ++ detail
  | configuration detail => "Configuration error: " ++ detail

/-- A page token that cannot be read is the fault of the caller; any other failure of the store is
not. -/
def ofStore (e : StoreError) : HttpError :=
  match e with
  | .invalidPageToken => badRequest e.message
  | .conditionFailed | .backend _ => database e.message

def ofService (e : ServiceError) : HttpError :=
  match e with
  | .notFound _ => notFound e.message
  | .alreadyExists _ => conflict e.message
  | .alreadyLinked _ => conflict e.message
  | .invalidReference _ => badRequest e.message
  | .registryFailed detail => badGateway detail
  | .incompatibleSchema _ _ => badRequest e.message
  | .duplicateTargets => badRequest e.message
  | .unauthorisedTarget _ => unauthorized e.message
  | .grantInactive => badRequest e.message
  | .noGrant => badRequest e.message
  | .invalidRequest _ => badRequest e.message
  | .store error => ofStore error
  | .internal detail => internal detail

def ofSettings (e : SettingsError) : HttpError :=
  configuration e.message

end HttpError

end AccessGrants
