import AccessGrants.Proofs.Concurrency.Operations

/-!
# AccessGrants.Proofs.Bindings.Rules

Which target groups and deployments an operation may write, in view of its own past.

* `SchemaChecked`    — a schema was looked up for a provider and is the one of a group that was read.
* `registrationRule`, `linkRule`, `unlinkRule`, `groupRule` — which calls an operation may make next.
* `registerDeployment_obeys` and the like — the operations keep them, whatever they are answered.
-/

namespace AccessGrants

/-- The target group read under a key has the schema that the registry answered for a provider. -/
def SchemaChecked (past : Past) (provider : Provider) (key : String) (group : TargetGroup) : Prop :=
  ⟨.resource (.store (.getTargetGroup key)), some (.ok (some group))⟩ ∈ past ∧
  ∃ answer detail, ⟨.resource (.lookup provider), some (.ok answer)⟩ ∈ past ∧
    answer.isSuccess = true ∧ answer.detail = some detail ∧
    detail.target.Equivalent group.targetSchema.schema

namespace Operation

/-- With enforced validation a write is unconditional only where the provider was seen to be the
stored one, and one under a binding follows a check. -/
def guardRule (validation : SchemaValidation) (past : Past) (deployment : Deployment) :
    AssignmentGuard → Prop
  | .any => validation = .enforced → ∃ d : Deployment, d.provider = deployment.provider ∧
      ⟨.resource (.store (.getDeployment deployment.id)), some (.ok (some d))⟩ ∈ past
  | .unassigned => True
  | .assignedTo g => validation = .enforced →
      ∃ key group, SchemaChecked past deployment.provider key group ∧ group.id = g

def registrationRule (validation : SchemaValidation) (deployment : Deployment) (past : Past) :
    Call → Prop
  | .resource (.store (.upsertDeployment d guard)) =>
    d = deployment ∧ guardRule validation past deployment guard
  | c => c.isQuiet

/-- With enforced validation an assignment follows a check. -/
def linkRule (validation : SchemaValidation) (past : Past) : Call → Prop
  | .resource (.store (.assignDeployment _ provider assignment)) => validation = .enforced →
      ∃ group, SchemaChecked past provider assignment.targetGroupId group
  | c => c.isQuiet

def unlinkRule : Call → Prop
  | .resource (.store (.clearAssignment _ _)) => True
  | c => c.isQuiet

def groupRule : Call → Prop
  | .resource (.store (.insertTargetGroup _)) => True
  | c => c.isQuiet

section Steps

variable {rule : Past → Call → Prop} (hq : ∀ past c, Call.isQuiet c = true → rule past c)
include hq

theorem getTargetGroup_obeys (key : String) (past : Past) :
    (Bindings.getTargetGroup key).Obeys rule
      (fun past' group => past' =
        ⟨.resource (.store (.getTargetGroup key)), some (.ok (some group))⟩ :: past)
      (fun _ _ => True) past := by
  simp only [Bindings.getTargetGroup, Service.obeys_bind, Service.obeys_store,
    Service.obeys_orNotFound]
  refine ⟨hq _ _ rfl, fun found => ⟨?_, fun _ => trivial⟩, fun _ => trivial⟩
  rintro group rfl
  rfl

theorem ensureCompatible_obeys {past : Past} (key : String) {group : TargetGroup}
    (hg : ⟨.resource (.store (.getTargetGroup key)), some (.ok (some group))⟩ ∈ past)
    (provider : Provider) :
    (Bindings.ensureCompatible group provider).Obeys rule
      (fun past' _ => SchemaChecked past' provider key group) (fun _ _ => True) past := by
  simp only [Bindings.ensureCompatible, Service.obeys_bind]
  refine (Compatibility.targetSchema_obeys (hq _ _ rfl)).mono ?_ fun _ _ _ => trivial
  rintro past' schema ⟨answer, detail, rfl, hs, hd, rfl⟩
  split
  · rename_i he
    exact ⟨List.mem_cons_of_mem _ hg, answer, detail, List.mem_cons_self, hs, hd, he⟩
  · trivial

end Steps

theorem registrationRule_of_isQuiet {validation : SchemaValidation} {deployment : Deployment}
    (past : Past) (c : Call) (hc : c.isQuiet = true) :
    registrationRule validation deployment past c := by
  unfold registrationRule
  split
  · cases hc
  · exact hc

theorem registrationGuard_obeys (validation : SchemaValidation) {existing : Option Deployment}
    {deployment : Deployment} {past : Past}
    (he : ⟨.resource (.store (.getDeployment deployment.id)), some (.ok existing)⟩ ∈ past) :
    (Bindings.registrationGuard validation existing deployment).Obeys
      (registrationRule validation deployment)
      (fun past' guard => guardRule validation past' deployment guard) (fun _ _ => True) past := by
  unfold Bindings.registrationGuard
  simp only
  split
  · rename_i h
    intro hv
    have hsame : ¬ existing.all fun d => d.provider ≠ deployment.provider := by
      rcases h with h | h
      · exact absurd hv h
      · exact h
    cases existing with
    | none => simp at hsame
    | some d => exact ⟨d, by simpa using hsame, he⟩
  · split
    · trivial
    · rename_i assignment _
      simp only [Service.obeys_bind]
      refine (getTargetGroup_obeys registrationRule_of_isQuiet _ _).mono ?_ fun _ _ h => h
      rintro _ group rfl
      refine (ensureCompatible_obeys registrationRule_of_isQuiet _ List.mem_cons_self _).mono
        (fun past' _ hs => ?_) fun _ _ h => h
      exact fun _ => ⟨assignment.targetGroupId, group, hs, rfl⟩

theorem registerWithin_obeys (validation : SchemaValidation) (deployment : Deployment)
    (attempts : Nat) (past : Past) :
    (Bindings.registerWithin validation deployment attempts).Obeys
      (registrationRule validation deployment) (fun _ _ => True) (fun _ _ => True) past := by
  induction attempts generalizing past with
  | zero => trivial
  | succ attempts ih =>
    simp only [Bindings.registerWithin, Service.obeys_bind, Service.obeys_store]
    refine ⟨rfl, fun existing => ?_, fun _ => trivial⟩
    refine (registrationGuard_obeys validation List.mem_cons_self).mono (fun past' guard hg => ?_)
      fun _ _ h => h
    simp only [Service.obeys_ask]
    refine ⟨⟨rfl, hg⟩, ?_⟩
    rintro (e | stored)
    · cases e with
      | conditionFailed => exact ih _
      | invalidPageToken => trivial
      | backend detail => trivial
    · trivial

theorem registerDeployment_obeys (validation : SchemaValidation) (deployment : Deployment) :
    (Bindings.registerDeployment validation deployment).Obeys
      (registrationRule validation deployment) (fun _ _ => True) (fun _ _ => True) [] :=
  registerWithin_obeys validation deployment _ []

theorem linkRule_of_isQuiet {validation : SchemaValidation} (past : Past) (c : Call)
    (hc : c.isQuiet = true) : linkRule validation past c := by
  unfold linkRule
  split
  · cases hc
  · exact hc

theorem linkDeployment_obeys (validation : SchemaValidation) (targetGroupId deploymentId : String)
    (priority : Int) :
    (Bindings.linkDeployment validation targetGroupId deploymentId priority).Obeys
      (linkRule validation) (fun _ _ => True) (fun _ _ => True) [] := by
  simp only [Bindings.linkDeployment, Service.obeys_bind]
  refine (getTargetGroup_obeys linkRule_of_isQuiet _ _).mono ?_ fun _ _ h => h
  rintro _ group rfl
  simp only [Service.obeys_store, Service.obeys_orNotFound]
  refine ⟨rfl, fun found => ⟨fun deployment _ => ⟨rfl, fun bound => ?_, by simp⟩, by simp⟩, by simp⟩
  split
  · trivial
  · split
    · trivial
    · split
      · simp only [Service.obeys_bind, Service.obeys_ask]
        refine (ensureCompatible_obeys linkRule_of_isQuiet targetGroupId (by simp) _).mono
          (fun past' _ hs => ?_) fun _ _ h => h
        refine ⟨fun _ => ⟨group, hs⟩, ?_⟩
        rintro (e | _)
        · cases e <;> trivial
        · trivial
      · rename_i hv
        simp only [Service.obeys_bind, Service.obeys_ask]
        refine ⟨fun h => absurd h hv, ?_⟩
        rintro (e | _)
        · cases e <;> trivial
        · trivial

theorem unlinkDeployment_obeys (targetGroupId deploymentId : String) :
    (Bindings.unlinkDeployment targetGroupId deploymentId).Obeys (fun _ => unlinkRule)
      (fun _ _ => True) (fun _ _ => True) [] := by
  simp only [Bindings.unlinkDeployment, Service.obeys_bind, Service.obeys_ask]
  refine ⟨trivial, ?_⟩
  rintro (e | deployment)
  · cases e <;> trivial
  · trivial

theorem createTargetGroup_obeys (id schemaRef : String) :
    (Bindings.createTargetGroup id schemaRef).Obeys (fun _ => groupRule) (fun _ _ => True)
      (fun _ _ => True) [] := by
  simp only [Bindings.createTargetGroup, Service.obeys_bind, Service.obeys_store]
  refine ⟨rfl, fun found => ?_, fun _ => trivial⟩
  split
  · trivial
  · split
    · trivial
    · simp only [Service.obeys_bind]
      refine (Compatibility.targetSchema_obeys rfl).mono (fun past schema _ => ?_) fun _ _ _ => trivial
      simp only [Service.obeys_now, Service.obeys_ask]
      refine ⟨rfl, fun now => ⟨trivial, ?_⟩⟩
      rintro (e | _)
      · cases e <;> trivial
      · trivial

end Operation

end AccessGrants
