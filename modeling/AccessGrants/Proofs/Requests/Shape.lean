import AccessGrants.Policy
import AccessGrants.Proofs.Names
import AccessGrants.Proofs.Requests.Recording
import AccessGrants.Proofs.Requests.Settlement

/-!
# AccessGrants.Proofs.Requests.Shape

How a request fits the preflight that it was issued from, group by group and grant by grant.

* `Fits`           — the request fits the preflight.
* `Issued.fits`    — a request fits when it is issued.
* `Fits.outcome`   — it still does when its grants have expired or were revoked.
-/

namespace AccessGrants

/-- The grant is one for the target, issued to the subject for the duration of the group. -/
structure Grant.Fits (grant : Grant) (subject : Requester) (g : AccessGroup) (t : Target) : Prop where
  target : grant.targetId = t.id
  targetGroup : grant.targetGroupId = t.targetGroupId
  parameters : grant.parameters = t.fields
  group : grant.accessGroupId = g.id
  accessRule : grant.accessRule = g.accessRule
  requestedBy : grant.requestedBy = subject.id
  subject : grant.subject = subject.email
  span : grant.start.addSeconds? g.durationSeconds = some grant.stop
  revoker : grant.revokedBy.isSome = true ↔ grant.status = .revoked

/-- The group is that of the preflight, with one grant for each target in their order. -/
structure AccessGroup.Fits (g : AccessGroup) (policy : GrantPolicy) (r : AccessRequest)
    (p : PreflightGroup) : Prop where
  id : g.id = p.id
  request : g.requestId = r.id
  accessRule : g.accessRule = p.accessRule
  targets : g.targets = p.targets
  duration : 0 < g.durationSeconds ∧ g.durationSeconds ≤ policy.maxDuration
  grants : List.Forall₂ (fun grant t => grant.Fits r.requestedBy g t) g.grants g.targets

/-- The request is one for the preflight, made by its user when it was consumed. -/
structure AccessRequest.Fits (r : AccessRequest) (policy : GrantPolicy) (p : Preflight) : Prop where
  preflight : r.preflightId = p.id
  owner : r.requestedBy.id = p.userId
  created : p.consumedAt = some r.createdAt
  groups : List.Forall₂ (fun g q => g.Fits policy r q) r.groups p.accessGroups
  reviewers : r.reviewers = Requests.reviewersOf r.groups
  distinct : (r.grants.map (·.id)).Nodup

namespace Requests

/-- An admitted duration, or the default of an accepted policy. -/
theorem durationOf_bounds {policy : GrantPolicy} {options : List GroupOption} (groupId : String)
    (hp : policy.validate = .ok ())
    (ho : ∀ o ∈ options, ∀ d, o.durationSeconds = some d → policy.admits d = true) :
    0 < durationOf policy options groupId ∧ durationOf policy options groupId ≤ policy.maxDuration := by
  have hdefault : 0 < policy.defaultDuration ∧ policy.defaultDuration ≤ policy.maxDuration := by
    unfold GrantPolicy.validate at hp
    split at hp
    · cases hp
    · split at hp
      · cases hp
      · omega
  cases hd : (options.find? fun o => o.id = groupId).bind (·.durationSeconds) with
  | none =>
    rw [durationOf, hd]
    exact hdefault
  | some d =>
    obtain ⟨o, hfind, hod⟩ := Option.bind_eq_some_iff.mp hd
    have hadmits := ho o (List.mem_of_find?_eq_some hfind) d hod
    rw [durationOf, hd]
    simpa [GrantPolicy.admits] using hadmits

/-- The reviewers of several groups are those of their targets. -/
theorem mem_reviewersOf {groups : List AccessGroup} {name : String} :
    name ∈ reviewersOf groups ↔ ∃ g ∈ groups, ∃ t ∈ g.targets, name ∈ t.reviewers := by
  have union : ∀ (targets : List Target) (acc : Names),
      name ∈ targets.foldl (fun acc t => acc.union t.reviewers) acc ↔
        name ∈ acc ∨ ∃ t ∈ targets, name ∈ t.reviewers := by
    intro targets
    induction targets with
    | nil => simp
    | cons t targets ih =>
      intro acc
      rw [List.foldl_cons, ih, Names.mem_union]
      simp [or_assoc]
  rw [reviewersOf, union]
  constructor
  · rintro (hempty | ⟨t, ht, hname⟩)
    · exact absurd hempty Std.ExtTreeSet.not_mem_empty
    · obtain ⟨g, hg, htg⟩ := List.mem_flatMap.mp ht
      exact ⟨g, hg, t, htg, hname⟩
  · rintro ⟨g, hg, t, ht, hname⟩
    exact .inr ⟨t, List.mem_flatMap.mpr ⟨g, hg, ht⟩, hname⟩

end Requests

/-! ## When it is issued -/

theorem grantFor_fits {group g : AccessGroup} {subject : Requester} {start stop : Instant}
    {t : Target} {id : String} (hid : g.id = group.id) (hrule : g.accessRule = group.accessRule)
    (hspan : start.addSeconds? g.durationSeconds = some stop) :
    (LocalWorkflow.grantFor group subject start stop t id).Fits subject g t where
  target := rfl
  targetGroup := rfl
  parameters := rfl
  group := hid.symm
  accessRule := hrule.symm
  requestedBy := rfl
  subject := rfl
  span := hspan
  revoker := by simp [LocalWorkflow.grantFor]

theorem Granted.fits {policy : GrantPolicy} {r : AccessRequest} {options : List GroupOption}
    {p : PreflightGroup} {g : AccessGroup} (h : Granted policy r.requestedBy r.id options p g)
    (hp : policy.validate = .ok ())
    (ho : ∀ o ∈ options, ∀ d, o.durationSeconds = some d → policy.admits d = true) :
    g.Fits policy r p := by
  obtain ⟨hg, start, stop, hspan, hgrants⟩ := h
  have hid : g.id = p.id := by rw [hg]; rfl
  have htargets : g.targets = p.targets := by rw [hg]; rfl
  have hrule : g.accessRule = p.accessRule := by rw [hg]; rfl
  have hduration : g.durationSeconds = Requests.durationOf policy options p.id := by rw [hg]; rfl
  refine ⟨hid, by rw [hg]; rfl, hrule, htargets, ?_, ?_⟩
  · rw [hduration]
    exact Requests.durationOf_bounds p.id hp ho
  · rw [htargets]
    refine hgrants.flip.imp fun grant t ⟨id, hgrant⟩ => ?_
    rw [hgrant]
    exact grantFor_fits hid hrule hspan

theorem Issued.fits {policy : GrantPolicy} {user : User} {input : Submission} {p : Preflight}
    {r : AccessRequest} (h : Issued policy user input p r) (hp : policy.validate = .ok ())
    (hu : user.id = p.userId) (hc : p.consumedAt = some r.createdAt)
    (hn : (r.grants.map (·.id)).Nodup) : r.Fits policy p where
  preflight := h.preflight
  owner := by rw [h.requester]; exact hu
  created := hc
  groups := by
    have hgroups := h.groups
    rw [← h.requester] at hgroups
    exact hgroups.flip.imp fun g q hg => hg.fits hp h.options
  reviewers := h.reviewers
  distinct := hn

/-! ## When its grants expire or are revoked -/

theorem Grant.settle_rest (grant : Grant) (actorId : String) (now : Instant) :
    ∃ status revokedBy,
      grant.settle actorId now = { grant with status := status, revokedBy := revokedBy } := by
  unfold Grant.settle
  split
  · exact ⟨_, _, rfl⟩
  · split
    · exact ⟨_, _, rfl⟩
    · exact ⟨_, _, rfl⟩

theorem Grant.Fits.settle {grant : Grant} {subject : Requester} {g : AccessGroup} {t : Target}
    (h : grant.Fits subject g t) (actorId : String) (now : Instant) :
    (grant.settle actorId now).Fits subject g t := by
  have hrevoker : (grant.settle actorId now).revokedBy.isSome = true ↔
      (grant.settle actorId now).status = .revoked := by
    cases hact : grant.isActive with
    | false =>
      rw [Grant.settle_of_final hact]
      exact h.revoker
    | true =>
      rcases Grant.settle_active hact with ⟨hs, hb⟩ | ⟨hs, hb⟩
      · have hactive : grant.status = .active := of_decide_eq_true hact
        rw [hs, hb, h.revoker, hactive]
        decide
      · simp [hs, hb]
  obtain ⟨status, revokedBy, heq⟩ := grant.settle_rest actorId now
  rw [heq] at hrevoker ⊢
  exact ⟨h.target, h.targetGroup, h.parameters, h.group, h.accessRule, h.requestedBy, h.subject,
    h.span, hrevoker⟩

theorem AccessGroup.Fits.settle {g : AccessGroup} {policy : GrantPolicy} {r r' : AccessRequest}
    {q : PreflightGroup} (h : g.Fits policy r q) (actorId : String) (now : Instant)
    (hid : r'.id = r.id) (hby : r'.requestedBy = r.requestedBy) :
    { g with grants := g.grants.map (Grant.settle actorId now) }.Fits policy r' q := by
  refine ⟨h.id, h.request.trans hid.symm, h.accessRule, h.targets, h.duration, ?_⟩
  refine List.forall₂_map_left_iff.mpr (h.grants.imp fun grant t hgrant => ?_)
  have hsettled := hgrant.settle actorId now
  rw [hby]
  exact ⟨hsettled.target, hsettled.targetGroup, hsettled.parameters, hsettled.group,
    hsettled.accessRule, hsettled.requestedBy, hsettled.subject, hsettled.span, hsettled.revoker⟩

namespace AccessRequest

variable {r : AccessRequest} {a : String} {t : Instant}

theorem mapGrants_congr {f k : Grant → Grant} (h : ∀ g ∈ r.grants, f g = k g) :
    r.mapGrants f = r.mapGrants k := by
  have hgroups : r.groups.map (fun g => { g with grants := g.grants.map f }) =
      r.groups.map fun g => { g with grants := g.grants.map k } := by
    refine List.map_congr_left fun g hg => ?_
    have hgrants : g.grants.map f = g.grants.map k :=
      List.map_congr_left fun grant hgrant => h grant (List.mem_flatMap.mpr ⟨g, hg, hgrant⟩)
    rw [hgrants]
  rw [mapGrants, mapGrants, hgroups]

theorem mapGrants_same : r.mapGrants (fun grant => grant) = r := by
  simp [mapGrants]

theorem mapGrants_mapGrants {f f' : Grant → Grant} :
    (r.mapGrants f).mapGrants f' = r.mapGrants (f' ∘ f) := by
  simp [mapGrants, Function.comp_def]

theorem expireElapsed_eq : ∃ f t', (r.expireElapsed t).1 = { r.mapGrants f with updatedAt := t' } := by
  unfold expireElapsed
  split
  · exact ⟨_, _, rfl⟩
  · exact ⟨fun grant => grant, r.updatedAt, by rw [mapGrants_same]⟩

theorem applyUpdates_eq (updated : List Grant) :
    ∃ f t', (r.applyUpdates updated t).1 = { r.mapGrants f with updatedAt := t' } := by
  simp only [applyUpdates]
  split
  · exact ⟨_, _, rfl⟩
  · exact ⟨_, r.updatedAt, rfl⟩

/-- What is written differs from what was read in its grants and the time of the update. -/
theorem outcome_eq (hn : (r.grants.map (·.id)).Nodup) :
    ∃ t', r.outcome t (LocalWorkflow.revoke (r.expireElapsed t).1 a) =
      { r.mapGrants (·.settle a t) with updatedAt := t' } := by
  have hmap : ∃ f t', r.outcome t (LocalWorkflow.revoke (r.expireElapsed t).1 a) =
      { r.mapGrants f with updatedAt := t' } := by
    obtain ⟨f, t', he⟩ := r.expireElapsed_eq (t := t)
    cases LocalWorkflow.revoke (r.expireElapsed t).1 a with
    | error e => exact ⟨f, t', he⟩
    | ok revoked =>
      obtain ⟨f', t'', hu⟩ := (r.expireElapsed t).1.applyUpdates_eq (t := t) revoked
      refine ⟨f' ∘ f, t'', hu.trans ?_⟩
      rw [he, ← mapGrants_mapGrants]
      rfl
  obtain ⟨f, t', heq⟩ := hmap
  refine ⟨t', ?_⟩
  rw [heq, mapGrants_congr (k := (·.settle a t))]
  have hgrants := outcome_grants (t := t) (a := a) hn
  rw [heq] at hgrants
  have hsame : r.grants.map f = r.grants.map (·.settle a t) := (r.grants_mapGrants f).symm.trans hgrants
  exact List.map_inj_left.mp hsame

theorem Fits.targets_eq {policy : GrantPolicy} {p : Preflight} (h : r.Fits policy p) :
    r.groups.map (·.targets) = p.accessGroups.map (·.targets) := by
  have htargets := h.groups.imp fun g q hg => hg.targets
  rwa [← List.forall₂_map_right_iff, ← List.forall₂_map_left_iff, List.forall₂_eq_eq_eq] at htargets

theorem Fits.outcome {policy : GrantPolicy} {p : Preflight} (h : r.Fits policy p) :
    (r.outcome t (LocalWorkflow.revoke (r.expireElapsed t).1 a)).Fits policy p := by
  obtain ⟨t', heq⟩ := outcome_eq (t := t) (a := a) h.distinct
  rw [heq]
  refine ⟨h.preflight, h.owner, h.created, ?_, ?_, ?_⟩
  · refine List.forall₂_map_left_iff.mpr (h.groups.imp fun g q hg => ?_)
    exact hg.settle a t rfl rfl
  · refine h.reviewers.trans ?_
    simp [Requests.reviewersOf, mapGrants, List.flatMap_map]
  · have hgrants : (r.mapGrants (·.settle a t)).grants = r.grants.map (·.settle a t) :=
      r.grants_mapGrants _
    have hids : ((r.mapGrants (·.settle a t)).grants).map (·.id) = r.grants.map (·.id) := by
      simp [hgrants]
    exact hids ▸ h.distinct

end AccessRequest

end AccessGrants
