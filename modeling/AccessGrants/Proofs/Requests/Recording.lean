import AccessGrants.Proofs.Concurrency.Handlers
import AccessGrants.Proofs.Preflights.Grouping
import AccessGrants.Proofs.Requests.Options
import AccessGrants.Proofs.Requests.Histories

/-!
# AccessGrants.Proofs.Requests.Recording

The services with the workflow that only records grants. It looks at the clock and takes new ids
while other operations go on, so each of these calls is a step of its own.

* `recorded`      — the services, side by side.
* `Issued`        — how a request comes from a preflight and a submission.
* `issueRule`     — a submission stores a request that is issued from what it has claimed.
* `recorded_keep` — every run is a trace under the rules of the operations.
-/

namespace AccessGrants

/-- What was claimed, and the time that it was claimed for. -/
def Exchange.claim? : Exchange Call.Reply → Option (Preflight × Instant)
  | ⟨.resource (.store (.claimPreflight _ _ t)), some (.ok found)⟩ => found.map (·, t)
  | _ => none

open Exchange Interaction

/-- Grants are issued by the workflow that only records them. -/
def Call.recording : (c : Call) → Service c.Reply
  | .grant group subject => Service.ofResources (LocalWorkflow.grant group subject)
  | c => Service.call c

/-- The services with the workflow that only records grants. -/
abbrev recorded (rules : ServiceRules) : Pool where
  Op := Operation
  Result := Operation.Result
  program o := (o.program rules).via Call.recording
  view x := { x with revoke := fun r actorId _ => some (LocalWorkflow.revoke r actorId) }

/-! ## How a request is issued -/

/-- The group was granted to a subject for its duration, target by target. -/
structure Granted (policy : GrantPolicy) (subject : Requester) (requestId : String)
    (options : List GroupOption) (p : PreflightGroup) (g : AccessGroup) : Prop where
  group : g = { Requests.accessGroup policy requestId options p with grants := g.grants }
  grants : ∃ start stop, start.addSeconds? g.durationSeconds = some stop ∧
    List.Forall₂ (fun t grant => ∃ id, grant = LocalWorkflow.grantFor
      (Requests.accessGroup policy requestId options p) subject start stop t id) p.targets g.grants

/-- The request is what a submission makes of a preflight. -/
structure Issued (policy : GrantPolicy) (user : User) (input : Submission) (p : Preflight)
    (r : AccessRequest) : Prop where
  preflight : r.preflightId = p.id
  requester : r.requestedBy = user.requester
  groups : List.Forall₂ (Granted policy user.requester r.id input.groupOptions) p.accessGroups
    r.groups
  reviewers : r.reviewers = Requests.reviewersOf r.groups
  options : ∀ o ∈ input.groupOptions, ∀ d, o.durationSeconds = some d → policy.admits d = true

namespace Operation

/-- A preflight is claimed once, for the user, and the request that is stored is issued from it, with
ids that were handed out for it. -/
def issueRule (policy : GrantPolicy) (user : User) (input : Submission) (past : Past) : Call → Prop
  | .resource (.store (.claimPreflight _ userId _)) => told claim? past = [] ∧ userId = user.id
  | .resource .freshId => True
  | .resource (.store (.putRequest r)) => ∃ p, told claim? past = [(p, r.createdAt)] ∧
      Issued policy user input p r ∧
      told issued? past = (r.grants.map (·.id)).reverse ++ [r.id]
  | c => c.isQuiet

/-- A preflight is stored without empty groups. -/
def fillRule : Call → Prop
  | .resource (.store (.putPreflight p)) => ∀ g ∈ p.accessGroups, g.targets ≠ []
  | _ => True

variable {policy : GrantPolicy} {user : User} {input : Submission}

/-- One new id for every target. -/
theorem grantAll_obeys (group : AccessGroup) (subject : Requester) (start stop : Instant)
    (targets : List Target) {past : Past} :
    (Service.ofResources (LocalWorkflow.grantAll group subject start stop targets)).Obeys
      (issueRule policy user input)
      (fun past' grants => told claim? past' = told claim? past ∧
        told issued? past' = (grants.map (·.id)).reverse ++ told issued? past ∧
        List.Forall₂ (fun t grant => ∃ id,
          grant = LocalWorkflow.grantFor group subject start stop t id) targets grants)
      (fun _ _ => False) past := by
  induction targets generalizing past with
  | nil => exact ⟨rfl, rfl, .nil⟩
  | cons target rest ih =>
    simp only [LocalWorkflow.grantAll, Service.ofResources_bind, Service.ofResources_call,
      Service.ofResources_pure, Service.obeys_bind, Service.obeys_ask, Service.obeys_pure]
    refine ⟨trivial, fun id => ?_⟩
    refine ih.mono (fun past' grants h => ?_) fun _ _ h => h
    obtain ⟨hc, hi, hg⟩ := h
    refine ⟨hc, ?_, .cons ⟨id, rfl⟩ hg⟩
    rw [hi]
    simp [issued?, LocalWorkflow.grantFor]

theorem grant_obeys (group : AccessGroup) (subject : Requester) {past : Past} :
    (Service.ofResources (LocalWorkflow.grant group subject)).Obeys (issueRule policy user input)
      (fun past' answer => ∃ grants start stop, answer = .ok grants ∧
        told claim? past' = told claim? past ∧
        told issued? past' = (grants.map (·.id)).reverse ++ told issued? past ∧
        start.addSeconds? group.durationSeconds = some stop ∧
        List.Forall₂ (fun t grant => ∃ id,
          grant = LocalWorkflow.grantFor group subject start stop t id) group.targets grants)
      (fun _ _ => True) past := by
  simp only [LocalWorkflow.grant, Service.ofResources_bind, Service.ofResources_call,
    Service.obeys_bind, Service.obeys_ask]
  refine ⟨rfl, fun start => ?_⟩
  cases hstop : group.duration?.bind start.addSeconds? with
  | none => trivial
  | some stop =>
    have hend : start.addSeconds? group.durationSeconds = some stop := by
      obtain ⟨d, hd, hs⟩ := Option.bind_eq_some_iff.mp hstop
      rw [AccessGroup.duration?] at hd
      split at hd
      · cases hd
        exact hs
      · cases hd
    have hdone : Service.ofResources (ofOption (some stop)) = pure stop := rfl
    rw [hdone, Service.obeys_pure]
    refine (grantAll_obeys group subject start stop group.targets).mono
      (fun past' grants h => ?_) fun _ _ _ => trivial
    obtain ⟨hc, hi, hg⟩ := h
    exact ⟨grants, start, stop, rfl, hc, hi, hend, hg⟩

/-- The groups that are granted so far and those still to come are the groups of the preflight. -/
theorem issueGroups_obeys (requestId : String) (groups : List PreflightGroup) {past : Past} :
    ((Requests.grantGroups user.requester
        (groups.map (Requests.accessGroup policy requestId input.groupOptions))).via
      Call.recording).Obeys (issueRule policy user input)
      (fun past' granted => told claim? past' = told claim? past ∧
        told issued? past' = ((granted.flatMap (·.grants)).map (·.id)).reverse ++ told issued? past ∧
        List.Forall₂ (Granted policy user.requester requestId input.groupOptions) groups granted)
      (fun _ _ => True) past := by
  induction groups generalizing past with
  | nil => exact ⟨rfl, rfl, .nil⟩
  | cons group rest ih =>
    simp only [List.map_cons, Requests.grantGroups, Service.via_bind, Service.via_call,
      Call.recording, Service.obeys_bind]
    refine (grant_obeys _ _).mono (fun past₁ answer h => ?_) fun _ _ h => h
    obtain ⟨grants, start, stop, rfl, hc, hi, hstop, hgrants⟩ := h
    simp only [Service.via_bind, Service.via_pure, Service.obeys_bind, Service.obeys_pure]
    refine ih.mono (fun past' granted h => ?_) fun _ _ h => h
    obtain ⟨hc', hi', hgranted⟩ := h
    refine ⟨hc'.trans hc, ?_, .cons ⟨rfl, start, stop, hstop, hgrants⟩ hgranted⟩
    rw [hi', hi]
    simp

theorem recording_keeps : Service.Keeps Call.recording :=
  fun _ => rfl

theorem issueRequest_obeys (policy : GrantPolicy) (user : User) (input : Submission) :
    ((Requests.createRequest policy user input).via Call.recording).Obeys
      (issueRule policy user input) (fun _ _ => True) (fun _ _ => True) [] := by
  have hcount := fun m => Service.via_count recording_keeps (m := m)
  simp only [Requests.createRequest, Service.via_bind, Service.via_store recording_keeps,
    Service.via_orNotFound, Service.obeys_bind, Service.obeys_store, Service.obeys_orNotFound]
  refine ⟨rfl, fun found => ⟨fun p₀ _ => ?_, fun _ => trivial⟩, fun _ => trivial⟩
  split
  · simp [hcount, issueRule, Call.isQuiet]
  · rename_i hoptions
    simp only [Service.via_bind, Service.via_now recording_keeps, Service.via_store recording_keeps,
      Service.obeys_bind, Service.obeys_now, Service.obeys_store]
    refine ⟨rfl, fun now => ⟨⟨rfl, rfl⟩, fun claimed => ?_, fun _ => trivial⟩⟩
    cases claimed with
    | none => simp [hcount, issueRule, Call.isQuiet]
    | some p =>
      simp only [Service.via_bind, Service.via_freshId recording_keeps, Service.obeys_bind,
        Service.obeys_freshId]
      refine ⟨trivial, fun id => ?_⟩
      refine (issueGroups_obeys id p.accessGroups).mono (fun past groups h => ?_) fun _ _ h => h
      obtain ⟨hc, hi, hg⟩ := h
      simp only [Service.via_pure, Service.via_store recording_keeps, hcount,
        Service.via_emit recording_keeps, Service.obeys_pure, Service.obeys_store,
        Service.obeys_count, Service.obeys_emit]
      refine ⟨⟨p, ?_, ⟨rfl, rfl, hg, rfl, Requests.admits_of_optionsFault? hoptions⟩, ?_⟩, ?_⟩
      · rw [hc]
        rfl
      · rw [hi]
        rfl
      · exact ⟨fun _ => ⟨rfl, rfl, rfl, fun _ => trivial⟩, fun _ => trivial⟩

/-! ## Every operation -/

theorem resolve_fills (user : User) (ids : List String) {past : Past} :
    (Preflights.resolve user ids).Obeys (fun _ => fillRule) (fun _ _ => True) (fun _ _ => True)
      past := by
  induction ids generalizing past with
  | nil => trivial
  | cons id ids ih =>
    simp only [Preflights.resolve, Service.obeys_bind, Service.obeys_call, Service.obeys_verdict]
    refine ⟨trivial, fun answer => ⟨fun may _ => ?_, fun _ _ => trivial⟩⟩
    cases may with
    | false => simp [fillRule]
    | true =>
      simp only [if_true, Service.obeys_bind, Service.obeys_store, Service.obeys_orNotFound]
      refine ⟨trivial, fun found => ⟨fun target _ => ?_, fun _ => trivial⟩, fun _ => trivial⟩
      exact ih.mono (fun _ _ _ => trivial) fun _ _ _ => trivial

theorem nameGroups_fills (groups : List (String × List Target)) {past : Past} :
    (Preflights.nameGroups groups).Obeys (fun _ => fillRule)
      (fun _ named => named.map (·.targets) = groups.map (·.2)) (fun _ _ => True) past := by
  induction groups generalizing past with
  | nil => rfl
  | cons group groups ih =>
    simp only [Preflights.nameGroups, Service.obeys_bind, Service.obeys_freshId]
    refine ⟨trivial, fun id => ih.mono (fun past' named h => ?_) fun _ _ _ => trivial⟩
    rw [Service.obeys_pure, List.map_cons, List.map_cons, h]

theorem createPreflight_fills (user : User) (ids : List String) :
    (Preflights.createPreflight user ids).Obeys (fun _ => fillRule) (fun _ _ => True)
      (fun _ _ => True) [] := by
  unfold Preflights.createPreflight
  split
  · simp [fillRule]
  · split
    · simp [fillRule]
    · simp only [Preflights.draft, Service.obeys_bind]
      refine (resolve_fills user ids).mono (fun past targets _ => ?_) fun _ _ h => h
      simp only [Service.obeys_now]
      refine ⟨trivial, fun now => (nameGroups_fills _).mono (fun past' groups h => ?_)
        fun _ _ h => h⟩
      simp only [Service.obeys_freshId, Service.obeys_pure, Service.obeys_store, Service.obeys_count]
      refine ⟨trivial, fun id => ⟨fun g hg => ?_, fun _ => ⟨trivial, trivial⟩, fun _ => trivial⟩⟩
      have hmem : g.targets ∈ (Preflight.byRule targets).map (·.2) := by
        rw [← h]
        exact List.mem_map_of_mem hg
      obtain ⟨named, hnamed, heq⟩ := List.mem_map.mp hmem
      rw [← heq]
      exact Preflight.byRule_ne_nil hnamed

/-- The rules of the services with this workflow. -/
def recordedRule (rules : ServiceRules) : Operation → Past → Call → Prop
  | createPreflight user _ => fun past c => draftRule user past c ∧ fillRule c
  | createRequest user input => issueRule rules.policy user input
  | o => o.rule rules

theorem rule_not_grant {rules : ServiceRules} {o : Operation}
    (hs : ∀ user input, o ≠ .createRequest user input) {past : Past} {g : AccessGroup}
    {s : Requester} : ¬ o.rule rules past (.grant g s) := by
  intro h
  cases o with
  | createRequest user input => exact hs user input rfl
  | _ => cases h

theorem recording_eq {c : Call} (hc : ∀ g s, c ≠ .grant g s) : c.recording = Service.call c := by
  cases c with
  | grant g s => exact absurd rfl (hc g s)
  | _ => rfl

theorem recorded_obeys (rules : ServiceRules) (o : Operation) :
    ((o.program rules).via Call.recording).Obeys (o.recordedRule rules) (fun _ _ => True)
      (fun _ _ => True) [] := by
  have other : (∀ user input, o ≠ .createRequest user input) →
      ((o.program rules).via Call.recording).Obeys (o.rule rules) (fun _ _ => True)
        (fun _ _ => True) [] := by
    intro hs
    refine Service.via_obeys (fun past c hc => recording_eq fun g s hg => ?_) (program_obeys rules o)
    subst hg
    exact rule_not_grant hs hc
  cases o with
  | createRequest user input => exact issueRequest_obeys rules.policy user input
  | createPreflight user ids =>
    have hboth := (createPreflight_obeys user ids).and (createPreflight_fills user ids)
    refine Service.Obeys.mono (Service.via_obeys (fun past c hc => recording_eq fun g s hg => ?_)
      hboth) (fun _ _ _ => trivial) fun _ _ _ => trivial
    subst hg
    cases hc.1
  | _ => exact other (by simp)

end Operation

/-- Every run of these services is a trace under their rules. -/
theorem recorded_keep (rules : ServiceRules) (w₀ : World) (moves : List (recorded rules).Move) :
    Pool.Keeps (S := recorded rules) (Operation.recordedRule rules) (fun _ _ _ => True) w₀
      (Pool.run w₀ moves) := by
  refine Pool.run_keeps (S := recorded rules) (fun o : Operation => ?_) w₀ moves
  exact Interaction.Obeys.mono (Operation.recorded_obeys rules o) (fun _ _ h => h) fun _ _ _ => trivial

end AccessGrants
