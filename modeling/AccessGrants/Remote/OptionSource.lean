import AccessGrants.Document.Models
import AccessGrants.Document.Text
import AccessGrants.Remote.Reply

/-!
# AccessGrants.Remote.OptionSource

The source of argument options behind HTTP.

* `OptionSource.url`    — where the options of an argument are fetched.
* `OptionSource.answer` — what a reply says; an unknown argument has no options.
-/

namespace AccessGrants

structure OptionSource where
  baseUrl : String
  deriving DecidableEq, Repr, Inhabited

/-- The source was not reached, refused with a status, or sent an unreadable document. -/
inductive OptionSourceError where
  | transport
  | refused (status : Nat) (providerId argId body : String)
  | decode
  deriving DecidableEq, Repr

namespace OptionSourceError

def message : OptionSourceError → String
  | transport => "option source sent no reply"
  | refused status providerId argId body =>
    "option source returned " ++ RemoteReply.statusText status ++ " for " ++ providerId ++ "/" ++
      argId ++ ": " ++ body
  | decode => "option source sent an unreadable document"

end OptionSourceError

namespace OptionSource

def url (s : OptionSource) (providerId argId : String) : String :=
  Remote.trimmedBase s.baseUrl ++ "/v1/providers/" ++ providerId ++ "/args/" ++ argId ++ "/options"

def answer (providerId argId : String) (reply : Option RemoteReply) :
    Except OptionSourceError (Option ArgOptions) :=
  match Remote.received? reply with
  | none => .error .transport
  | some reply =>
    if reply.status = 404 then .ok none
    else if reply.isSuccess then
      match Decoder.ofText ArgOptions.read reply.text with
      | .ok options => .ok (some options)
      | .error _ => .error .decode
    else .error (.refused reply.status providerId argId reply.text)

end OptionSource

end AccessGrants
