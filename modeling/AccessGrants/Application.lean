import AccessGrants.Http.Server
import AccessGrants.Mongo.Address
import AccessGrants.Mongo.Plan
import AccessGrants.Remote.OptionSource
import AccessGrants.Remote.ProviderRegistry
import AccessGrants.Service.Local

/-!
# AccessGrants.Application

The service as it runs: records in a document database, providers and options from other services,
grants that are only recorded, and authorization by identity groups.

* `Wire`                 — what the service says to the outside.
* `Application.ofSettings` — the parts of the service.
* `Application.build`    — connects, makes the indexes and listens, in this order.
* `Application.serve`    — answers a request.
-/

namespace AccessGrants

/-- `fetch` sends a GET request, and `listen` takes the port. -/
inductive Wire where
  | command (c : MongoCommand)
  | fetch (url : String)
  | listen (port : Nat)
  | now
  | freshId
  | count (metric : Metric)

namespace Wire

abbrev Reply : Wire → Type
  | command _ => MongoReply
  | fetch _ => Option RemoteReply
  | listen _ => Bool
  | now => Instant
  | freshId => String
  | count _ => Unit

end Wire

abbrev WireProc (α : Type) := Interaction Wire.Reply α

structure Application where
  store : MongoStore
  registry : ProviderRegistry
  source : OptionSource
  authorizer : GroupAuthorizer
  rules : ServiceRules

namespace Plan

/-- Sends the command of a plan, if there is one. -/
def execute : Plan α → WireProc (Except StoreError α)
  | refuse e => return .error e
  | send command read => return read (← Interaction.call (Wire.command command))

end Plan

namespace Application

def ofSettings (s : Settings) : Application where
  store := MongoStore.ofPageSize s.mongoDatabase s.pageSize
  registry := ⟨s.registryUrl⟩
  source := ⟨s.argOptionsUrl⟩
  authorizer := ⟨s.adminGroup⟩
  rules := ⟨s.schemaValidation, s.policy⟩

/-- How a resource is reached. Events are only logged. -/
def reach (a : Application) : (r : Resource) → WireProc r.Reply
  | .store c => (a.store.plan c).execute
  | .lookup provider =>
    return ProviderRegistry.answer (← Interaction.call (Wire.fetch (a.registry.url provider)))
  | .fetchOptions providerId argId =>
    return (OptionSource.answer providerId argId
      (← Interaction.call (Wire.fetch (a.source.url providerId argId)))).mapError (·.message)
  | .emit _ => return .ok ()
  | .now => Interaction.call Wire.now
  | .freshId => Interaction.call Wire.freshId
  | .count metric => Interaction.call (Wire.count metric)

def serve (a : Application) (r : HttpRequest) : WireProc HttpResponse :=
  ((Server.serve a.rules r).locally a.authorizer).interpret a.reach .overflow

/-- Makes the indexes until one cannot be made. -/
def makeIndexes : List MongoCommand → WireProc (Except StoreError Unit)
  | [] => return .ok ()
  | c :: rest => do
    match MongoStore.readIndexed (← Interaction.call (Wire.command c)) with
    | .ok () => makeIndexes rest
    | .error e => return .error e

/-- Nothing is sent to an address that cannot be one. -/
def build (s : Settings) : WireProc (Except HttpError Application) := do
  match MongoAddress.parse? s.mongoUri with
  | none => return .error (.database "the address of the database is invalid")
  | some _ =>
    match ← makeIndexes MongoStore.indexCommands with
    | .error e => return .error (.database e.message)
    | .ok () =>
      if ← Interaction.call (Wire.listen s.port) then return .ok (ofSettings s)
      else return .error (.internal "the port is taken")

end Application

end AccessGrants
