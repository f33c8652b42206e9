import AccessGrants.Proofs.Bindings.Rules
import AccessGrants.Proofs.Concurrency.Aside
import AccessGrants.Proofs.Requests.Revocations

/-!
# AccessGrants.Proofs.Concurrency.Rules

The rule of every operation in one table. Operations that are not listed in it make quiet calls only.

* `Operation.rule`  — which calls an operation may make next, in view of its own past.
* `program_obeys`   — every operation keeps its rule, whatever it is answered.
* `services_keep`   — so every run of the services is a trace under these rules.
-/

namespace AccessGrants
namespace Operation

def rule (rules : ServiceRules) : Operation → Past → Call → Prop
  | createPreflight user _ => draftRule user
  | createRequest user input => submissionRule rules.policy user input
  | revokeRequest actor id => Revocation.rule ⟨actor, id⟩
  | createTargetGroup _ _ => fun _ => groupRule
  | registerDeployment deployment => registrationRule rules.schemaValidation deployment
  | linkDeployment _ _ _ => linkRule rules.schemaValidation
  | unlinkDeployment _ _ => fun _ => unlinkRule
  | _ => fun _ c => c.isQuiet

theorem quiet_of_isPlain (rules : ServiceRules) {o : Operation} (h : o.isPlain = true) :
    (o.program rules).Within Call.isQuiet :=
  (program_within_plain rules h).mono Call.isQuiet_of_isPlain

/-- Every operation keeps its rule, whatever it is answered. -/
theorem program_obeys (rules : ServiceRules) (o : Operation) :
    (o.program rules).Obeys (o.rule rules) (fun _ _ => True) (fun _ _ => True) [] := by
  cases o with
  | createPreflight user targetIds => exact createPreflight_obeys user targetIds
  | createRequest user input => exact createRequest_obeys rules.policy user input
  | revokeRequest actor id =>
    exact (Revocation.revoke_obeys ⟨actor, id⟩).mono (fun _ _ _ => trivial) fun _ _ _ => trivial
  | createTargetGroup id schemaRef => exact createTargetGroup_obeys id schemaRef
  | registerDeployment deployment =>
    exact registerDeployment_obeys rules.schemaValidation deployment
  | linkDeployment targetGroupId deploymentId priority =>
    exact linkDeployment_obeys rules.schemaValidation targetGroupId deploymentId priority
  | unlinkDeployment targetGroupId deploymentId =>
    exact unlinkDeployment_obeys targetGroupId deploymentId
  -- all others make quiet calls only
  | _ => exact quiet_of_isPlain rules rfl []

end Operation

theorem services_keep (rules : ServiceRules) (view : Surroundings → Surroundings) (w₀ : World)
    (moves : List (services rules view).Move) :
    Pool.Keeps (S := services rules view) (Operation.rule rules) (fun _ _ _ => True) w₀
      (Pool.run w₀ moves) := by
  refine Pool.run_keeps (S := services rules view) (fun o : Operation => ?_) w₀ moves
  exact Interaction.Obeys.mono (Operation.program_obeys rules o) (fun _ _ h => h) fun _ _ _ => trivial

end AccessGrants
