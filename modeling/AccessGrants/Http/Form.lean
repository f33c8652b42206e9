import AccessGrants.Document.Models
import AccessGrants.Document.Text
import AccessGrants.Service.Requests
import AccessGrants.Url.Basic

/-!
# AccessGrants.Http.Form

The bodies that callers send. A form is read from a document and then held against its rules; every
field that breaks a rule has one line, and the lines stand in order.

* `Form α`      — how an `α` is read, and the lines of one that breaks rules.
* `Form.accept` — reads and checks.

Each form has a writer `toJson` that names all of its fields.
-/

namespace AccessGrants

structure Form (α : Type) where
  read : Decoder α
  faults : α → List String

/-- Why a body is not accepted. -/
inductive FormError where
  | unreadable (fault : Fault)
  | invalid (lines : List String)
  deriving DecidableEq, Repr

namespace Form

/-- The line of a field that breaks a rule. -/
def line (field reason : String) : String :=
  field ++ ": " ++ reason

def require (fits : Bool) (field reason : String) : List String :=
  if fits then [] else [line field reason]

/-- A form that keeps its rules. -/
def check (form : Form α) (a : α) : Except FormError α :=
  if form.faults a = [] then .ok a else .error (.invalid (form.faults a))

def accept (form : Form α) (document : Draft) : Except FormError α := do
  form.check (← (form.read document).mapError .unreadable)

/-- Reads the whole text of a body. -/
def acceptText (form : Form α) (body : String) : Except FormError α := do
  form.check (← (Decoder.ofText form.read body).mapError .unreadable)

end Form

structure TargetGroupForm where
  id : String
  targetSchema : String
  deriving DecidableEq, Repr, Inhabited

structure LinkForm where
  deploymentId : String
  priority : Int
  deriving DecidableEq, Repr, Inhabited

structure DeploymentForm where
  id : String
  provider : String
  functionUrl : Option String
  diagnostics : List Diagnostic
  deriving DecidableEq, Repr, Inhabited

structure TargetForm where
  targetGroupId : String
  accessRule : String
  fields : Parameters
  groups : Names
  reviewers : Names
  deriving DecidableEq, Inhabited

structure PreflightForm where
  targets : List String
  deriving DecidableEq, Repr, Inhabited

open Form (require)
open Record (required nullable defaulted)

namespace TargetGroupForm

/-- Ids have 1 to 128 characters. -/
def form : Form TargetGroupForm where
  read :=
    (TargetGroupForm.mk <$> required "id" Decoder.text
      <*> required "target_schema" Decoder.text).decode
  faults f :=
    require (f.id ≠ "" && f.id.length ≤ 128) "id" "Target group id is required" ++
      require (f.targetSchema ≠ "") "target_schema" "Target schema reference is required"

def toJson (f : TargetGroupForm) : Json :=
  .ofFields [("id", .string f.id), ("target_schema", .string f.targetSchema)]

end TargetGroupForm

namespace LinkForm

def form : Form LinkForm where
  read :=
    (LinkForm.mk <$> required "deployment_id" Decoder.text
      <*> defaulted "priority" Decoder.int32 0).decode
  faults f :=
    require (f.deploymentId ≠ "") "deployment_id" "Deployment id is required" ++
      require (0 ≤ f.priority) "priority" "Priority must not be negative"

def toJson (f : LinkForm) : Json :=
  .ofFields [("deployment_id", .string f.deploymentId), ("priority", .int f.priority)]

end LinkForm

namespace DeploymentForm

def form : Form DeploymentForm where
  read :=
    (DeploymentForm.mk <$> required "id" Decoder.text <*> required "provider" Decoder.text
      <*> nullable "function_url" Decoder.text
      <*> defaulted "diagnostics" (Decoder.list Diagnostic.read) []).decode
  faults f :=
    require (f.functionUrl.all fun u => (Url.parse? u).isSome) "function_url"
        "Function URL must be a valid URL" ++
      require (f.id ≠ "") "id" "Deployment id is required" ++
      require (f.provider ≠ "") "provider" "Provider is required"

def toJson (f : DeploymentForm) : Json :=
  .ofFields
    [("id", .string f.id), ("provider", .string f.provider),
      ("function_url", .ofOption .string f.functionUrl),
      ("diagnostics", .array (f.diagnostics.map Diagnostic.toJson))]

/-- The deployment of a form, bound to nothing. -/
def deployment (f : DeploymentForm) (provider : Provider) : Deployment :=
  ⟨f.id, provider, f.functionUrl, f.diagnostics, none⟩

end DeploymentForm

namespace TargetForm

def form : Form TargetForm where
  read :=
    (TargetForm.mk <$> required "target_group_id" Decoder.text
      <*> required "access_rule" Decoder.text <*> defaulted "fields" Decoder.parameters ∅
      <*> defaulted "groups" Decoder.names ∅ <*> defaulted "reviewers" Decoder.names ∅).decode
  faults f :=
    require (f.accessRule ≠ "") "access_rule" "Access rule is required" ++
      require (f.targetGroupId ≠ "") "target_group_id" "Target group id is required"

/-- The target of a form under the id that the path names. -/
def target (f : TargetForm) (id : String) : Target :=
  ⟨id, f.targetGroupId, f.accessRule, f.fields, f.groups, f.reviewers⟩

end TargetForm

namespace PreflightForm

def form : Form PreflightForm where
  read := (PreflightForm.mk <$> required "targets" (Decoder.list Decoder.text)).decode
  faults f := require (f.targets ≠ []) "targets" "At least one target is required"

def toJson (f : PreflightForm) : Json :=
  .ofFields [("targets", .ofStrings f.targets)]

end PreflightForm

namespace GroupOption

def read : Decoder GroupOption :=
  (GroupOption.mk <$> required "id" Decoder.text
    <*> nullable "duration_seconds" Decoder.int64).decode

def faults (o : GroupOption) (place : String) : List String :=
  require (o.id ≠ "") (place ++ ".id") "Access group id is required" ++
    require (o.durationSeconds.all (1 ≤ ·)) (place ++ ".duration_seconds")
      "Duration must be positive"

def toJson (o : GroupOption) : Json :=
  .ofFields [("id", .string o.id), ("duration_seconds", .ofOption .int o.durationSeconds)]

end GroupOption

namespace Submission

def greatestReason : Nat := 2048

/-- The faults of all options are one line, without anything between them. -/
def optionsLine (options : List GroupOption) : List String :=
  let found := options.zipIdx.flatMap fun (o, i) =>
    o.faults ("group_options[" ++ Nat.repr i ++ "]")
  if found = [] then [] else ["".intercalate found]

def form : Form Submission where
  read :=
    (Submission.mk <$> required "preflight_id" Decoder.text <*> nullable "reason" Decoder.text
      <*> defaulted "group_options" (Decoder.list GroupOption.read) []).decode
  faults f :=
    optionsLine f.groupOptions ++
      require (f.preflightId ≠ "") "preflight_id" "Preflight id is required" ++
      require (f.reason.all (·.length ≤ greatestReason)) "reason" "Reason is too long"

def toJson (f : Submission) : Json :=
  .ofFields
    [("preflight_id", .string f.preflightId), ("reason", .ofOption .string f.reason),
      ("group_options", .array (f.groupOptions.map GroupOption.toJson))]

end Submission

end AccessGrants
