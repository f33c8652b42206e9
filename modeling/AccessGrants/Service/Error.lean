import AccessGrants.Provider
import AccessGrants.Store.Basic

/-!
# AccessGrants.Service.Error

Why a service refuses or fails.

* `RegistryError`, `WorkflowError` — failures of two collaborators.
* `ServiceError`                   — the causes that a service reports.
* `ServiceError.message`           — the wording of a cause.
-/

namespace AccessGrants

/-- The provider registry was not reached, answered with an unreadable document, or failed in
another way. -/
inductive RegistryError where
  | transport (detail : String)
  | decode (detail : String)
  | other (detail : String)
  deriving DecidableEq, Repr

namespace RegistryError

def message : RegistryError → String
  | transport detail => "provider registry request failed: " ++ detail
  | decode detail => "provider registry returned an unreadable document: " ++ detail
  | other detail => "provider registry client error: " ++ detail

end RegistryError

inductive WorkflowError where
  | grantInactive
  | noGrant
  | failed (detail : String)
  deriving DecidableEq, Repr

namespace WorkflowError

def message : WorkflowError → String
  | grantInactive => "grant is inactive"
  | noGrant => "no grant to revoke"
  | failed detail => "workflow failed: " ++ detail

end WorkflowError

inductive ServiceError where
  | notFound (what : String)
  | alreadyExists (what : String)
  | alreadyLinked (targetGroupId : String)
  | invalidReference (error : InvalidReference)
  | registryFailed (detail : String)
  | incompatibleSchema (targetGroupId : String) (provider : String)
  | duplicateTargets
  | unauthorisedTarget (targetId : String)
  | grantInactive
  | noGrant
  | invalidRequest (reason : String)
  | store (error : StoreError)
  | internal (detail : String)
  deriving DecidableEq, Repr

namespace ServiceError

def message : ServiceError → String
  | notFound what => what ++ " not found"
  | alreadyExists what => what ++ " already exists"
  | alreadyLinked g => "target group " ++ g ++ " already has a linked deployment"
  | invalidReference e => e.message
  | registryFailed detail => "provider registry error: " ++ detail
  | incompatibleSchema g p =>
    "deployment provider " ++ p ++ " does not match the target schema of " ++ g
  | duplicateTargets => "duplicate target ids requested"
  | unauthorisedTarget t => "user is not authorised for requested target " ++ t
  | grantInactive => "grant is inactive"
  | noGrant => "no grant to revoke"
  | invalidRequest reason => "invalid request: " ++ reason
  | store e => "store error: " ++ e.message
  | internal detail => "Internal server error: " ++ detail

def ofRegistry (e : RegistryError) : ServiceError :=
  registryFailed e.message

/-- A failed workflow is an internal error; the two refusals keep their kind. -/
def ofWorkflow : WorkflowError → ServiceError
  | .grantInactive => grantInactive
  | .noGrant => noGrant
  | .failed detail => internal detail

end ServiceError

end AccessGrants
