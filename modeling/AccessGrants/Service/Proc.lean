import AccessGrants.Interaction
import AccessGrants.Service.Error
import AccessGrants.Service.Event
import AccessGrants.Store.Call

/-!
# AccessGrants.Service.Proc

A service operation is a tree of calls. It uses resources, such as the store and the clock, and two
collaborators that can be exchanged, the workflow and the authorizer.

* `Resource`  — the calls to resources, each with the type of its reply.
* `Call`      — these, and the calls to the collaborators.
* `Proc α`    — a tree of calls that ends in an `α` or in an arithmetic overflow.
* `Service α` — a tree that may end in a service error.
-/

namespace AccessGrants

/-- An answer of the provider registry, whatever its status. A success holds the document. -/
structure RegistryAnswer where
  status : Nat
  detail : Option ProviderDetail
  body : String
  deriving DecidableEq, Inhabited

namespace RegistryAnswer

def isSuccess (a : RegistryAnswer) : Bool :=
  200 ≤ a.status && a.status < 300

end RegistryAnswer

/-- What the operations use. `lookup` asks the provider registry and `fetchOptions` the option
source, which knows an argument or not. -/
inductive Resource where
  | store (c : StoreCall)
  | lookup (provider : Provider)
  | fetchOptions (providerId argId : String)
  | emit (event : AccessEvent)
  | now
  | freshId
  | count (metric : Metric)

namespace Resource

abbrev Reply : Resource → Type
  | store c => c.Reply
  | lookup _ => Except RegistryError RegistryAnswer
  | fetchOptions _ _ => Except String (Option ArgOptions)
  | emit _ => Except String Unit
  | now => Instant
  | freshId => String
  | count _ => Unit

end Resource

/-- A program over the resources. -/
abbrev ResourceProc (α : Type) := Interaction Resource.Reply α

/-- `grant` and `revoke` go to the workflow, `mayRequest`, `isAdmin` and `isReviewer` to the
authorizer. -/
inductive Call where
  | resource (r : Resource)
  | grant (group : AccessGroup) (subject : Requester)
  | revoke (request : AccessRequest) (actorId actorEmail : String)
  | mayRequest (user : User) (targetId : String)
  | isAdmin (user : User)
  | isReviewer (user : User) (request : AccessRequest)

namespace Call

abbrev Reply : Call → Type
  | resource r => r.Reply
  | grant _ _ => Except WorkflowError (List Grant)
  | revoke _ _ _ => Except WorkflowError (List Grant)
  | mayRequest _ _ => Except String Bool
  | isAdmin _ => Except String Bool
  | isReviewer _ _ => Except String Bool

end Call

/-- A program over the resources and the collaborators. -/
abbrev Proc (α : Type) := Interaction Call.Reply α

namespace Proc

def call (c : Call) : Proc c.Reply :=
  Interaction.call c

def ask (r : Resource) : Proc r.Reply :=
  call (.resource r)

end Proc

abbrev Service (α : Type) := ExceptT ServiceError Proc α

namespace Service

def call (c : Call) : Service c.Reply :=
  ExceptT.lift (Proc.call c)

def ask (r : Resource) : Service r.Reply :=
  ExceptT.lift (Proc.ask r)

/-- A store call whose failure ends the operation. -/
def store (c : StoreCall) : Service c.Value := do
  match ← ask (.store c) with
  | .ok a => return a
  | .error e => throw (.store e)

/-- A question to the authorizer whose failure ends the operation. -/
def verdict (answer : Except String Bool) : Service Bool :=
  match answer with
  | .ok b => return b
  | .error detail => throw (.internal detail)

def now : Service Instant :=
  ask .now

def freshId : Service String :=
  ask .freshId

def count (metric : Metric) : Service Unit :=
  ask (.count metric)

/-- Sends an event; a failure to send it is ignored. -/
def emit (event : AccessEvent) : Service Unit := do
  let _ ← ask (.emit event)
  return ()

/-- The value, or not found. -/
def orNotFound (what : String) : Option α → Service α
  | some a => return a
  | none => throw (.notFound what)

end Service

end AccessGrants
