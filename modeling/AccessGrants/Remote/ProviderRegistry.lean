import AccessGrants.Document.Models
import AccessGrants.Document.Text
import AccessGrants.Remote.Reply
import AccessGrants.Service.Proc

/-!
# AccessGrants.Remote.ProviderRegistry

The provider registry behind HTTP.

* `ProviderRegistry.url`    — where a provider is looked up.
* `ProviderRegistry.answer` — what a reply says. Only a success must hold a readable document.
-/

namespace AccessGrants

structure ProviderRegistry where
  baseUrl : String
  deriving DecidableEq, Repr, Inhabited

namespace ProviderRegistry

def url (r : ProviderRegistry) (p : Provider) : String :=
  Remote.trimmedBase r.baseUrl ++ "/v1/providers/" ++ p.publisher ++ "/" ++ p.name ++ "/" ++
    p.version

/-- Without a reply the registry was not reached. -/
def answer (reply : Option RemoteReply) : Except RegistryError RegistryAnswer :=
  match Remote.received? reply with
  | none => .error (.transport "no reply")
  | some reply =>
    if reply.isSuccess then
      match Decoder.ofText ProviderDetail.read reply.text with
      | .ok detail => .ok ⟨reply.status, some detail, reply.text⟩
      | .error _ => .error (.decode "not a provider")
    else .ok ⟨reply.status, none, reply.text⟩

end ProviderRegistry

end AccessGrants
