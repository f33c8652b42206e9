import AccessGrants.Http.Error
import AccessGrants.Http.Form
import AccessGrants.Http.MediaType
import AccessGrants.Http.Query
import AccessGrants.Http.Request
import AccessGrants.Service.Proc
import AccessGrants.Text.Percent

/-!
# AccessGrants.Http.Handler

The steps that handlers of requests are made of. A step may refuse the request; the first refusal is
the answer.

* `Answer`                — status and content of a response.
* `Refusal`               — why a request is not handled.
* `Handler.caller`, `Handler.parameter`, `Handler.query`, `Handler.body` — the parts of a request.
* `Handler.requireAdmin`  — refuses callers outside the group of the administrators.
-/

namespace AccessGrants

inductive Content where
  | json (document : Json)
  | text (s : String)
  deriving DecidableEq, Inhabited

structure Answer where
  status : Nat
  content : Content
  deriving DecidableEq, Inhabited

namespace Answer

def ok (document : Json) : Answer := ⟨200, .json document⟩

def created (document : Json) : Answer := ⟨201, .json document⟩

def plain (status : Nat) (text : String) : Answer := ⟨status, .text text⟩

end Answer

/-- `badTarget` is a path or query that cannot be read. -/
inductive Refusal where
  | error (e : HttpError)
  | badTarget (text : String)
  deriving DecidableEq, Repr

namespace Refusal

def answer : Refusal → Answer
  | error e => ⟨e.status, .json e.body⟩
  | badTarget text => .plain 400 text

end Refusal

abbrev Handler (α : Type) := ExceptT Refusal Proc α

namespace Handler

def fail (e : HttpError) : Handler α :=
  throw (.error e)

/-- A service operation, whose errors are answered as failures. -/
def run (operation : Service α) : Handler α :=
  ExceptT.adapt (fun e => .error (HttpError.ofService e)) operation

def caller (r : HttpRequest) : Handler User :=
  match r.user with
  | .ok user => return user
  | .error header => fail (.unauthorized ("Missing " ++ header ++ " header"))

/-- A parameter of the path, decoded. -/
def parameter (name raw : String) : Handler String :=
  match Percent.text? raw.toList with
  | some value => return value
  | none => throw (.badTarget ("Invalid URL: Invalid UTF-8 in \x60" ++ name ++ "\x60"))

def query (read : Except Query.Fault α) : Handler α :=
  match read with
  | .ok a => return a
  | .error _ => throw (.badTarget "Failed to deserialize query string")

/-- Bytes of the longest body that is read. -/
def greatestBody : Nat := 2097152

def bodyRefused (reason : String) : HttpError :=
  .badRequest ("Json parse error: " ++ reason)

def formRefused : FormError → HttpError
  | .unreadable .malformed => bodyRefused "Failed to parse the request body as JSON"
  | .unreadable .mismatch =>
    bodyRefused "Failed to deserialize the JSON body into the target type"
  | .invalid lines => .validation lines

/-- The form in the body of a request, which must say that it is JSON. -/
def body (r : HttpRequest) (form : Form α) : Handler α :=
  if ¬ (r.readable? "content-type").any MediaType.isJson then
    fail (bodyRefused "Expected request with \x60Content-Type: application/json\x60")
  else if greatestBody < r.body.utf8ByteSize then
    fail (bodyRefused "Failed to buffer the request body")
  else
    match form.acceptText r.body with
    | .ok a => return a
    | .error e => fail (formRefused e)

def requireAdmin (user : User) : Handler Unit := do
  match ← ExceptT.lift (Proc.call (.isAdmin user)) with
  | .ok true => return ()
  | .ok false => fail (.forbidden "Administrator access required")
  | .error detail => fail (.internal detail)

end Handler

end AccessGrants
