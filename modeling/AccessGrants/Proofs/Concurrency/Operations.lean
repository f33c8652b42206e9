import AccessGrants.Http.Server
import AccessGrants.Proofs.Concurrency.Pool

/-!
# AccessGrants.Proofs.Concurrency.Operations

The operations of the services as one system: callers start any of them, with any arguments, at any
time.

* `Operation`         — an operation with its arguments.
* `Operation.program` — what it does.
* `services`          — all of them side by side; `view` is what is fixed about the surroundings.
* `Call.isQuiet`      — calls that take no id, ask for no grant, and write no preflight, request,
                        target group or deployment.
* `targetSchema_obeys` — the one step that several operations share.
-/

namespace AccessGrants

inductive Operation where
  | createPreflight (user : User) (targetIds : List String)
  | getPreflight (user : User) (id : String)
  | createRequest (user : User) (input : Submission)
  | getRequest (user : User) (id : String)
  | listRequestsFor (user : User) (page : Option String)
  | listRequests (page : Option String)
  | revokeRequest (actor : User) (id : String)
  | createTargetGroup (id schemaRef : String)
  | getTargetGroup (id : String)
  | listTargetGroups (page : Option String)
  | registerDeployment (deployment : Deployment)
  | linkDeployment (targetGroupId deploymentId : String) (priority : Int)
  | unlinkDeployment (targetGroupId deploymentId : String)
  | areCompatible (a b : String)
  | listTargets (user : User) (page : Option String)
  | putTarget (target : Target)
  | listArgOptions (user : User) (providerId argId : String) (forced : Bool)

namespace Operation

abbrev Result : Operation → Type
  | createPreflight _ _ | getPreflight _ _ => Preflight
  | createRequest _ _ | getRequest _ _ | revokeRequest _ _ => AccessRequest
  | listRequestsFor _ _ | listRequests _ => Page AccessRequest
  | createTargetGroup _ _ | getTargetGroup _ | linkDeployment _ _ _ => TargetGroup
  | listTargetGroups _ => Page TargetGroup
  | registerDeployment _ | unlinkDeployment _ _ => Deployment
  | areCompatible _ _ => Bool
  | listTargets _ _ => Page Target
  | putTarget _ => Target
  | listArgOptions _ _ _ _ => ArgOptions

def program (rules : ServiceRules) : (o : Operation) → Service o.Result
  | createPreflight user targetIds => Preflights.createPreflight user targetIds
  | getPreflight user id => Preflights.getPreflight user id
  | createRequest user input => Requests.createRequest rules.policy user input
  | getRequest user id => Requests.getRequestFor user id
  | listRequestsFor user page => Requests.listRequestsFor user page
  | listRequests page => Requests.listRequests page
  | revokeRequest actor id => Requests.revokeRequest actor id
  | createTargetGroup id schemaRef => Bindings.createTargetGroup id schemaRef
  | getTargetGroup id => Bindings.getTargetGroup id
  | listTargetGroups page => Bindings.listTargetGroups page
  | registerDeployment deployment => Bindings.registerDeployment rules.schemaValidation deployment
  | linkDeployment targetGroupId deploymentId priority =>
    Bindings.linkDeployment rules.schemaValidation targetGroupId deploymentId priority
  | unlinkDeployment targetGroupId deploymentId =>
    Bindings.unlinkDeployment targetGroupId deploymentId
  | areCompatible a b => Compatibility.areCompatibleRefs a b
  | listTargets user page => Catalogue.listTargets user page
  | putTarget target => Catalogue.putTarget target
  | listArgOptions user providerId argId forced => ArgOptionCache.listFor user providerId argId forced

end Operation

abbrev services (rules : ServiceRules) (view : Surroundings → Surroundings := id) : Pool where
  Op := Operation
  Result := Operation.Result
  program := Operation.program rules
  view := view

namespace StoreCall

def isQuiet : StoreCall → Bool
  | putPreflight _ | claimPreflight _ _ _ | putRequest _ => false
  | insertTargetGroup _ | upsertDeployment _ _ => false
  | assignDeployment _ _ _ | clearAssignment _ _ => false
  | _ => true

end StoreCall

namespace Call

def isQuiet : Call → Bool
  | resource .freshId | grant _ _ => false
  | resource (.store c) => c.isQuiet
  | _ => true

end Call

namespace Compatibility

/-- A schema that is found is the one in a successful answer about the provider. -/
theorem targetSchema_obeys {rule : Past → Call → Prop} {provider : Provider} {past : Past}
    (hr : rule past (.resource (.lookup provider))) :
    (targetSchema provider).Obeys rule
      (fun past' schema => ∃ answer detail,
        past' = ⟨.resource (.lookup provider), some (.ok answer)⟩ :: past ∧
        answer.isSuccess = true ∧ answer.detail = some detail ∧ schema = detail.target)
      (fun past' _ => ∃ reply, past' = ⟨.resource (.lookup provider), some reply⟩ :: past) past := by
  simp only [targetSchema, Service.obeys_bind, Service.obeys_ask]
  refine ⟨hr, ?_⟩
  rintro (e | answer)
  · exact ⟨_, rfl⟩
  · dsimp only
    split
    · rename_i detail hd
      split
      · rename_i hs
        exact ⟨answer, detail, rfl, hs, hd, rfl⟩
      · exact ⟨_, rfl⟩
    · exact ⟨_, rfl⟩

end Compatibility

end AccessGrants
