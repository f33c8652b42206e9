import AccessGrants.Proofs.Concurrency.Operations
import AccessGrants.Proofs.Concurrency.Within

/-!
# AccessGrants.Proofs.Concurrency.Aside

Operations that have nothing to do with requests. They ask no workflow, write and count no request
or grant, and send no event.

* `Call.isAside`        — the calls they may make.
* `Operation.isAside`   — all operations but the submission and the revocation of a request.
* `Operation.isPlain`   — those of them that make quiet calls only.
* `program_within_aside`, `program_within_plain` — they do as it says.
-/

namespace AccessGrants

namespace Call

/-- The workflow may never return; everyone else does. -/
def isWorkflow : Call → Bool
  | grant _ _ | revoke _ _ _ => true
  | _ => false

/-- Calls that leave requests, grants and their counters alone, and that send no event. -/
def isAside : Call → Bool
  | grant _ _ | revoke _ _ _ => false
  | resource (.emit _) => false
  | resource (.store (.putRequest _)) => false
  | resource (.count (.grantsIssued _)) | resource (.count (.grantsRevoked _)) => false
  | _ => true

def isPlain (c : Call) : Bool :=
  c.isQuiet && c.isAside

theorem isQuiet_of_isPlain (c : Call) (h : c.isPlain = true) : c.isQuiet = true :=
  (Bool.and_eq_true_iff.mp h).1

theorem isAside_of_isPlain (c : Call) (h : c.isPlain = true) : c.isAside = true :=
  (Bool.and_eq_true_iff.mp h).2

theorem not_isWorkflow_of_isAside {c : Call} (h : c.isAside = true) : c.isWorkflow = false := by
  cases c with
  | grant group subject => cases h
  | revoke request id email => cases h
  | _ => rfl

end Call

open Service

namespace Compatibility

theorem targetSchema_within {kind : Call → Bool} {provider : Provider}
    (h : kind (.resource (.lookup provider)) = true) : (targetSchema provider).Within kind :=
  fun _ => (targetSchema_obeys h).mono (fun _ _ _ => trivial) fun _ _ _ => trivial

theorem areCompatibleRefs_plain (a b : String) : (areCompatibleRefs a b).Within Call.isPlain := by
  rw [areCompatibleRefs]
  split
  · exact within_throw _
  · split
    · exact within_throw _
    · exact (targetSchema_within rfl).bind fun _ => (targetSchema_within rfl).bind fun _ =>
        within_pure _

end Compatibility

namespace Requests

theorem visibleRequest_plain (user : User) (id : String) :
    (visibleRequest user id).Within Call.isPlain := by
  refine (within_store rfl).bind fun found => (within_orNotFound _ found).bind fun r => ?_
  have hadmin : (call (.isAdmin user)).Within Call.isPlain := within_call rfl
  have hreviewer : (call (.isReviewer user r)).Within Call.isPlain := within_call rfl
  split
  · exact within_pure r
  · refine hadmin.bind fun answer => (within_verdict answer).bind fun admin => ?_
    split
    · exact within_pure r
    · refine hreviewer.bind fun answer => (within_verdict answer).bind fun reviewer => ?_
      split
      · exact within_pure r
      · exact within_throw _

end Requests

namespace ArgOptionCache

theorem load_plain (providerId argId : String) : (load providerId argId).Within Call.isPlain := by
  refine (within_store rfl).bind fun cached => ?_
  cases cached with
  | none => exact within_pure _
  | some options => exact within_pure _

theorem refresh_plain (providerId argId : String) :
    (refresh providerId argId).Within Call.isPlain := by
  have hask : (ask (.fetchOptions providerId argId)).Within Call.isPlain := within_ask rfl
  refine hask.bind ?_
  rintro (detail | _ | options)
  · exact (within_ask rfl).bind fun _ => within_throw _
  · exact (within_ask rfl).bind fun _ => within_pure _
  · exact (within_ask rfl).bind fun _ => (within_store rfl).bind fun _ =>
      (within_ask rfl).bind fun _ => within_pure _

theorem loadOrRefresh_plain (providerId argId : String) :
    (loadOrRefresh providerId argId).Within Call.isPlain := by
  refine (load_plain providerId argId).bind ?_
  rintro ⟨hit, options⟩
  cases hit with
  | true => exact within_pure _
  | false => exact refresh_plain providerId argId

theorem listFor_plain (user : User) (providerId argId : String) (forced : Bool) :
    (listFor user providerId argId forced).Within Call.isPlain := by
  have show_found : ∀ x : Bool × ArgOptions, Within Call.isPlain
      (if x.1 = true then pure (x.2.visibleTo user.groups)
        else throw (.notFound ("options for argument " ++ argId ++ " of provider " ++ providerId)) :
        Service ArgOptions) := by
    intro x
    split
    · exact within_pure _
    · exact within_throw _
  rw [listFor]
  split
  · exact (refresh_plain providerId argId).bind show_found
  · exact (loadOrRefresh_plain providerId argId).bind show_found

end ArgOptionCache

namespace Preflights

theorem resolve_aside (user : User) (ids : List String) : (resolve user ids).Within Call.isAside := by
  induction ids with
  | nil => exact within_pure []
  | cons id rest ih =>
    have hask : (call (.mayRequest user id)).Within Call.isAside := within_call rfl
    refine hask.bind fun answer => (within_verdict answer).bind fun allowed => ?_
    split
    · exact (within_store rfl).bind fun found => (within_orNotFound _ found).bind fun target =>
        ih.bind fun _ => within_pure _
    · exact (within_ask rfl).bind fun _ => within_throw _

theorem nameGroups_aside (groups : List (String × List Target)) :
    (nameGroups groups).Within Call.isAside := by
  induction groups with
  | nil => exact within_pure []
  | cons group rest ih => exact (within_ask rfl).bind fun _ => ih.bind fun _ => within_pure _

theorem createPreflight_aside (user : User) (ids : List String) :
    (createPreflight user ids).Within Call.isAside := by
  rw [createPreflight]
  split
  · exact (within_ask rfl).bind fun _ => within_throw _
  · split
    · exact (within_ask rfl).bind fun _ => within_throw _
    · refine (resolve_aside user ids).bind fun targets => (within_ask rfl).bind fun now => ?_
      have hdraft : (draft user.id targets now).Within Call.isAside :=
        (nameGroups_aside _).bind fun _ => (within_ask rfl).bind fun _ => within_pure _
      exact hdraft.bind fun _ => (within_store rfl).bind fun _ => (within_ask rfl).bind fun _ =>
        within_pure _

end Preflights

namespace Bindings

theorem getTargetGroup_plain (id : String) : (getTargetGroup id).Within Call.isPlain :=
  (within_store rfl).bind fun found => within_orNotFound _ found

theorem ensureCompatible_plain (group : TargetGroup) (provider : Provider) :
    (ensureCompatible group provider).Within Call.isPlain := by
  refine (Compatibility.targetSchema_within rfl).bind fun schema => ?_
  split
  · exact within_pure _
  · exact within_throw _

theorem registrationGuard_plain (validation : SchemaValidation) (existing : Option Deployment)
    (d : Deployment) : (registrationGuard validation existing d).Within Call.isPlain := by
  rw [registrationGuard]
  split
  · exact within_pure _
  · split
    · exact within_pure _
    · exact (getTargetGroup_plain _).bind fun _ => (ensureCompatible_plain _ _).bind fun _ =>
        within_pure _

theorem createTargetGroup_aside (id schemaRef : String) :
    (createTargetGroup id schemaRef).Within Call.isAside := by
  refine (within_store rfl).bind fun found => ?_
  dsimp only
  split
  · exact within_throw _
  · split
    · exact within_throw _
    · refine (Compatibility.targetSchema_within rfl).bind fun schema => ?_
      refine (within_ask rfl).bind fun now => (within_ask rfl).bind fun answer => ?_
      split
      · exact within_pure _
      · exact within_throw _
      · exact within_throw _

theorem registerWithin_aside (validation : SchemaValidation) (d : Deployment) (attempts : Nat) :
    (registerWithin validation d attempts).Within Call.isAside := by
  induction attempts with
  | zero => exact within_throw _
  | succ attempts ih =>
    rw [registerWithin]
    refine (within_store rfl).bind fun existing => ?_
    refine ((registrationGuard_plain _ _ _).mono Call.isAside_of_isPlain).bind fun guard => ?_
    refine (within_ask rfl).bind fun answer => ?_
    split
    · exact within_pure _
    · exact ih
    · exact within_throw _

theorem linkDeployment_aside (validation : SchemaValidation) (g id : String) (priority : Int) :
    (linkDeployment validation g id priority).Within Call.isAside := by
  refine ((getTargetGroup_plain g).mono Call.isAside_of_isPlain).bind fun group => ?_
  refine (within_store rfl).bind fun found => (within_orNotFound _ found).bind fun d => ?_
  refine (within_store rfl).bind fun linked => ?_
  dsimp only
  split
  · exact within_throw _
  · split
    · exact within_throw _
    · split
      case' isTrue => refine ((ensureCompatible_plain _ _).mono Call.isAside_of_isPlain).bind fun _ => ?_
      all_goals
        refine (within_ask rfl).bind fun answer => ?_
        split
        · exact within_pure _
        · exact within_throw _
        · exact within_throw _

theorem unlinkDeployment_aside (g id : String) : (unlinkDeployment g id).Within Call.isAside := by
  refine (within_ask rfl).bind fun answer => ?_
  split
  · exact within_pure _
  · exact within_throw _
  · exact within_throw _

end Bindings

namespace Operation

/-- All operations but the two that write requests. -/
def isAside : Operation → Bool
  | createRequest _ _ | revokeRequest _ _ => false
  | _ => true

/-- Those of them that make quiet calls only. -/
def isPlain : Operation → Bool
  | createRequest _ _ | revokeRequest _ _ | createPreflight _ _ => false
  | createTargetGroup _ _ | registerDeployment _ => false
  | linkDeployment _ _ _ | unlinkDeployment _ _ => false
  | _ => true

theorem program_within_plain (rules : ServiceRules) {o : Operation} (h : o.isPlain = true) :
    (o.program rules).Within Call.isPlain := by
  cases o with
  | getPreflight user id => exact (within_store rfl).bind fun found => within_orNotFound _ found
  | getRequest user id =>
    exact (Requests.visibleRequest_plain user id).bind fun _ => (within_ask rfl).bind fun _ =>
      within_pure _
  | listRequestsFor user page =>
    exact (within_store rfl).bind fun _ => (within_ask rfl).bind fun _ => within_pure _
  | listRequests page =>
    exact (within_store rfl).bind fun _ => (within_ask rfl).bind fun _ => within_pure _
  | getTargetGroup id => exact Bindings.getTargetGroup_plain id
  | listTargetGroups page => exact within_store rfl
  | areCompatible a b => exact Compatibility.areCompatibleRefs_plain a b
  | listTargets user page => exact (within_store rfl).bind fun _ => within_pure _
  | putTarget target => exact (within_store rfl).bind fun _ => within_pure _
  | listArgOptions user p a forced => exact ArgOptionCache.listFor_plain user p a forced
  | _ => cases h

theorem program_within_aside (rules : ServiceRules) {o : Operation} (h : o.isAside = true) :
    (o.program rules).Within Call.isAside := by
  by_cases hplain : o.isPlain = true
  · exact (program_within_plain rules hplain).mono Call.isAside_of_isPlain
  · cases o with
    | createPreflight user ids => exact Preflights.createPreflight_aside user ids
    | createTargetGroup id ref => exact Bindings.createTargetGroup_aside id ref
    | registerDeployment d => exact Bindings.registerWithin_aside _ d _
    | linkDeployment g id priority => exact Bindings.linkDeployment_aside _ g id priority
    | unlinkDeployment g id => exact Bindings.unlinkDeployment_aside g id
    | createRequest user input => cases h
    | revokeRequest actor id => cases h
    | _ => exact absurd rfl hplain

end Operation
end AccessGrants
