import AccessGrants.Proofs.Alone.Attain
import AccessGrants.Proofs.Requests.Options
import Mathlib.Data.List.Forall2

/-!
# AccessGrants.Proofs.Requests.SubmissionOutcome

What becomes of a submission that nothing interferes with, with the workflow that only records grants
and a clock that stands still.

* `MemoryStore.Usable`    — a preflight that its owner may still use.
* `Opened`, `Composed`    — the groups and the request that come of a preflight.
* `SubmissionOutcome`     — which submissions succeed, what they leave, and why others are refused.
* `grantGroups_attains`   — every group is granted, in order.
* `submission_outcome`    — every submission has this outcome.
-/

namespace AccessGrants

namespace MemoryStore

/-- A stored preflight that belongs to the user and was not used. -/
structure Usable (s : MemoryStore) (id userId : String) (p : Preflight) : Prop where
  stored : s.preflights[id]? = some p
  owner : p.userId = userId
  unused : p.consumedAt = none

theorem getPreflight_eq_some {s : MemoryStore} {id userId : String} {p : Preflight} :
    s.getPreflight id userId = some p ↔ s.Usable id userId p := by
  simp only [getPreflight, Option.filter_eq_some_iff, Preflight.usableBy, Preflight.isConsumed,
    Bool.and_eq_true, decide_eq_true_eq, Bool.not_eq_true', Option.isSome_eq_false_iff,
    Option.isNone_iff_eq_none]
  exact ⟨fun ⟨h, ho, hu⟩ => ⟨h, ho, hu⟩, fun ⟨h, ho, hu⟩ => ⟨h, ho, hu⟩⟩

end MemoryStore

/-- An active grant of a target, from a time on for a duration. -/
structure GrantOpened (now : Instant) (duration : Int) (t : Target) (grant : Grant) : Prop where
  target : grant.targetId = t.id
  active : grant.status = .active
  start : grant.start = now
  stop : now.addSeconds? duration = some grant.stop

/-- The group of a request for one group of its preflight. Its duration is that of the option that
names the group, and the default when that gives none or when there is no such option. -/
structure Opened (policy : GrantPolicy) (options : List GroupOption) (requestId : String)
    (now : Instant) (q : PreflightGroup) (g : AccessGroup) : Prop where
  id : g.id = q.id
  request : g.requestId = requestId
  accessRule : g.accessRule = q.accessRule
  targets : g.targets = q.targets
  named : ∀ o ∈ options, o.id = q.id →
    g.durationSeconds = o.durationSeconds.getD policy.defaultDuration
  unnamed : (∀ o ∈ options, o.id ≠ q.id) → g.durationSeconds = policy.defaultDuration
  grants : List.Forall₂ (GrantOpened now g.durationSeconds) q.targets g.grants

/-- The request is what a submission makes of a preflight at a time. -/
structure Composed (policy : GrantPolicy) (user : User) (input : Submission) (now : Instant)
    (p : Preflight) (r : AccessRequest) : Prop where
  preflight : r.preflightId = p.id
  requester : r.requestedBy = user.requester
  reason : r.reason = input.reason
  groups : List.Forall₂ (Opened policy input.groupOptions r.id now) p.accessGroups r.groups
  reviewers : r.reviewers = Requests.reviewersOf r.groups
  created : r.createdAt = now
  updated : r.updatedAt = now

open Requests (Accepted Objection durationOf)

/-- What is answered to a submission, and what is stored then. -/
structure SubmissionOutcome (policy : GrantPolicy) (user : User) (input : Submission) (now : Instant)
    (s s' : MemoryStore) (answer : Except ServiceError AccessRequest) : Prop where
  succeeds : (∃ r, answer = .ok r) ↔
    ∃ p, s.Usable input.preflightId user.id p ∧ Accepted policy p input.groupOptions
  missing : (∀ p, ¬ s.Usable input.preflightId user.id p) →
    answer = .error (.notFound ("preflight " ++ input.preflightId))
  refused : ∀ p, s.Usable input.preflightId user.id p → ¬ Accepted policy p input.groupOptions →
    ∃ before o after reason, input.groupOptions = before ++ o :: after ∧ Accepted policy p before ∧
      Objection policy p before o reason ∧ answer = .error (.invalidRequest reason)
  kept : ∀ e, answer = .error e → s' = s
  composed : ∀ r, answer = .ok r → ∃ p, s.Usable input.preflightId user.id p ∧
    Composed policy user input now p r ∧
    s' = { s with
      preflights := s.preflights.insert input.preflightId { p with consumedAt := some now }
      requests := s.requests.insert r.id r }

namespace SubmissionOutcome

variable {policy : GrantPolicy} {user : User} {input : Submission} {now : Instant} {s s' : MemoryStore}
  {p p' : Preflight} {r : AccessRequest} {before after : List GroupOption} {o : GroupOption}
  {reason : String}

theorem usable_unique (h : s.Usable input.preflightId user.id p)
    (h' : s.Usable input.preflightId user.id p') : p' = p :=
  Option.some.inj (h'.stored.symm.trans h.stored)

theorem of_accepted (hp : s.Usable input.preflightId user.id p)
    (h : Accepted policy p input.groupOptions) (hr : Composed policy user input now p r)
    (hs : s' = { s with
      preflights := s.preflights.insert input.preflightId { p with consumedAt := some now }
      requests := s.requests.insert r.id r }) :
    SubmissionOutcome policy user input now s s' (.ok r) where
  succeeds := iff_of_true ⟨r, rfl⟩ ⟨p, hp, h⟩
  missing hnone := absurd hp (hnone p)
  refused p' hp' hnot := by
    rw [usable_unique hp hp'] at hnot
    exact absurd h hnot
  kept := nofun
  composed r' hr' := by
    cases hr'
    exact ⟨p, hp, hr, hs⟩

theorem of_refused (hp : s.Usable input.preflightId user.id p)
    (h : ¬ Accepted policy p input.groupOptions) (hsplit : input.groupOptions = before ++ o :: after)
    (hbefore : Accepted policy p before) (hobjection : Objection policy p before o reason) :
    SubmissionOutcome policy user input now s s (.error (.invalidRequest reason)) where
  succeeds := by
    refine iff_of_false nofun ?_
    rintro ⟨p', hp', h'⟩
    rw [usable_unique hp hp'] at h'
    exact h h'
  missing hnone := absurd hp (hnone p)
  refused p' hp' _ := by
    rw [usable_unique hp hp']
    exact ⟨before, o, after, reason, hsplit, hbefore, hobjection, rfl⟩
  kept _ _ := rfl
  composed := nofun

theorem of_missing (hnone : ∀ p, ¬ s.Usable input.preflightId user.id p) :
    SubmissionOutcome policy user input now s s
      (.error (.notFound ("preflight " ++ input.preflightId))) where
  succeeds := iff_of_false nofun fun ⟨p, hp, _⟩ => hnone p hp
  missing _ := rfl
  refused p hp := absurd hp (hnone p)
  kept _ _ := rfl
  composed := nofun

end SubmissionOutcome

namespace LocalWorkflow

open Service

variable {allowed : Moment → Prop} {s : MemoryStore} {past : Past} {now stop : Instant}

theorem grantAll_attains (group : AccessGroup) (subject : Requester) (start stop : Instant)
    (targets : List Target) :
    (ofResources (grantAll group subject start stop targets)).Attains allowed
      (fun s' _ grants => s' = s ∧ List.Forall₂
        (fun t grant => ∃ id, grant = grantFor group subject start stop t id) targets grants)
      (fun _ _ _ => False) s past := by
  induction targets generalizing past with
  | nil => exact ⟨rfl, .nil⟩
  | cons target rest ih =>
    rw [grantAll, ofResources_bind, attains_bind]
    refine attains_freshId fun id => ?_
    rw [ofResources_bind, attains_bind]
    refine ih.mono (fun s' past' grants h => ?_) fun _ _ _ => False.elim
    exact ⟨h.1, .cons ⟨id, rfl⟩ h.2⟩

/-- The end of a grant is the end of the duration of its group. -/
theorem stop_of_addSeconds? {group : AccessGroup}
    (hstop : now.addSeconds? group.durationSeconds = some stop) :
    group.duration?.bind now.addSeconds? = some stop := by
  have hrange : -Instant.greatestDuration ≤ group.durationSeconds ∧
      group.durationSeconds ≤ Instant.greatestDuration := by
    rw [Instant.addSeconds?] at hstop
    split at hstop
    · assumption
    · cases hstop
  rw [AccessGroup.duration?, if_pos hrange]
  exact hstop

theorem grant_attains (group : AccessGroup) (subject : Requester)
    (hstop : now.addSeconds? group.durationSeconds = some stop) :
    (ofResources (grant group subject)).Attains (fun m => m.clock = now)
      (fun s' _ answer => s' = s ∧ ∃ grants, answer = .ok grants ∧
        List.Forall₂ (GrantOpened now group.durationSeconds) group.targets grants)
      (fun _ _ _ => False) s past := by
  rw [grant, ofResources_bind, attains_bind]
  refine attains_now fun m hm => ?_
  rw [hm, ofResources_bind, attains_bind, stop_of_addSeconds? hstop]
  have hdone : ofResources (Interaction.ofOption (some stop)) = pure stop := rfl
  rw [hdone, attains_pure, ofResources_bind, attains_bind]
  refine (grantAll_attains group subject now stop group.targets).mono (fun s' past' grants h => ?_)
    fun _ _ _ => False.elim
  refine ⟨h.1, grants, rfl, h.2.imp fun t grant hgrant => ?_⟩
  obtain ⟨id, rfl⟩ := hgrant
  exact ⟨rfl, rfl, rfl, hstop⟩

end LocalWorkflow

namespace Requests

open Service

variable {a : GroupAuthorizer} {policy : GrantPolicy} {user : User} {input : Submission}
  {options : List GroupOption} {now : Instant} {p : Preflight} {s : MemoryStore} {past : Past}

theorem opened_of_grants (h : Accepted policy p options) (requestId : String) (q : PreflightGroup)
    {grants : List Grant} (hg : List.Forall₂
      (GrantOpened now (durationOf policy options q.id)) q.targets grants) :
    Opened policy options requestId now q
      { accessGroup policy requestId options q with grants := grants } where
  id := rfl
  request := rfl
  accessRule := rfl
  targets := rfl
  named _ ho hid := (congrArg (durationOf policy options) hid).symm.trans (durationOf_named h ho)
  unnamed := durationOf_unnamed
  grants := hg

/-- The groups are granted one after the other. -/
theorem grantGroups_attains (h : Accepted policy p options) (subject : Requester) (requestId : String)
    (groups : List PreflightGroup)
    (hends : ∀ q ∈ groups, (now.addSeconds? (durationOf policy options q.id)).isSome) :
    ((grantGroups subject (groups.map (accessGroup policy requestId options))).locally a).Attains
      (fun m => m.clock = now)
      (fun s' _ granted => s' = s ∧ List.Forall₂ (Opened policy options requestId now) groups granted)
      (fun _ _ _ => False) s past := by
  induction groups generalizing past with
  | nil => exact ⟨rfl, .nil⟩
  | cons q rest ih =>
    obtain ⟨stop, hstop⟩ := Option.isSome_iff_exists.mp (hends q List.mem_cons_self)
    rw [List.map_cons, grantGroups, locally_bind, locally_call, attains_bind]
    refine (LocalWorkflow.grant_attains (accessGroup policy requestId options q) subject hstop).mono
      (fun s₁ past₁ answer h₁ => ?_) fun _ _ _ => False.elim
    obtain ⟨rfl, grants, rfl, hgrants⟩ := h₁
    simp only [locally_bind, locally_pure, attains_bind, attains_pure]
    refine (ih fun q hq => hends q (List.mem_cons_of_mem _ hq)).mono (fun s' past' granted h' => ?_)
      fun _ _ _ => id
    exact ⟨h'.1, .cons (opened_of_grants h requestId q hgrants) h'.2⟩

/-- The submission has its outcome, whether it returns or fails. -/
def Concludes (a : GroupAuthorizer) (policy : GrantPolicy) (user : User) (input : Submission)
    (now : Instant) (s : MemoryStore) (past : Past) : Prop :=
  ((createRequest policy user input).locally a).Attains (fun m => m.clock = now)
    (fun s' _ r => SubmissionOutcome policy user input now s s' (.ok r))
    (fun s' _ e => SubmissionOutcome policy user input now s s' (.error e)) s past

theorem concludes_of_accepted (hp : s.Usable input.preflightId user.id p)
    (h : Accepted policy p input.groupOptions)
    (hends : ∀ q ∈ p.accessGroups,
      (now.addSeconds? (durationOf policy input.groupOptions q.id)).isSome) :
    Concludes a policy user input now s past := by
  have hget := MemoryStore.getPreflight_eq_some.mpr hp
  have hfault : optionsFault? policy p [] input.groupOptions = none :=
    (optionsFault?_eq_none_iff accepted_nil).mpr h
  simp only [Concludes, createRequest, locally_bind, locally_store, locally_orNotFound, attains_bind]
  refine attains_store (a := some p) (congrArg Except.ok hget) ?_
  rw [attains_orNotFound_some, hfault]
  dsimp only
  simp only [locally_bind, locally_store, locally_now, attains_bind]
  refine attains_now fun m hm => ?_
  rw [hm]
  refine attains_store (a := some { p with consumedAt := some now }) ?_ ?_
  · simp [MemoryStore.perform, MemoryStore.claimPreflight, hget]
  simp only [locally_bind, locally_freshId, locally_store, locally_count, locally_emit, locally_pure,
    attains_bind]
  refine attains_freshId fun id => ?_
  refine (grantGroups_attains h user.requester id p.accessGroups hends).mono
    (fun s' past' groups hg => ?_) fun _ _ _ => False.elim
  obtain ⟨rfl, hg⟩ := hg
  refine attains_store rfl (attains_count (attains_count (attains_emit fun _ => ?_)))
  refine .of_accepted hp h ⟨rfl, rfl, rfl, hg, rfl, rfl, rfl⟩ ?_
  simp [MemoryStore.perform, MemoryStore.claimPreflight, hget]

theorem concludes_of_refused (hp : s.Usable input.preflightId user.id p)
    (h : ¬ Accepted policy p input.groupOptions) : Concludes a policy user input now s past := by
  have hget := MemoryStore.getPreflight_eq_some.mpr hp
  obtain ⟨reason, hreason⟩ : ∃ reason, optionsFault? policy p [] input.groupOptions = some reason :=
    Option.ne_none_iff_exists'.mp fun hnone => h ((optionsFault?_eq_none_iff accepted_nil).mp hnone)
  obtain ⟨before, o, after, hsplit, hbefore, hobjection⟩ := exists_objection accepted_nil hreason
  simp only [Concludes, createRequest, locally_bind, locally_store, locally_orNotFound, attains_bind]
  refine attains_store (a := some p) (congrArg Except.ok hget) ?_
  rw [attains_orNotFound_some, hreason]
  dsimp only
  simp only [locally_bind, locally_count, locally_throw, attains_bind]
  refine attains_count ?_
  exact .of_refused hp h hsplit hbefore hobjection

theorem concludes_of_missing (hnone : ∀ p, ¬ s.Usable input.preflightId user.id p) :
    Concludes a policy user input now s past := by
  have hget : s.getPreflight input.preflightId user.id = none :=
    Option.eq_none_iff_forall_ne_some.mpr fun p hp => hnone p (MemoryStore.getPreflight_eq_some.mp hp)
  simp only [Concludes, createRequest, locally_bind, locally_store, locally_orNotFound, attains_bind]
  refine attains_store (a := none) (congrArg Except.ok hget) ?_
  exact .of_missing hnone

/-- A submission that nothing interferes with has one outcome, while the clock shows one time and the
grants of what is accepted end within the dates that there are. -/
theorem submission_outcome (a : GroupAuthorizer) (policy : GrantPolicy) (user : User)
    (input : Submission) (s : Session) (moments : Nat → Moment) {now : Instant}
    (hclock : ∀ n, (moments n).clock = now)
    (hends : ∀ p, s.store.Usable input.preflightId user.id p → Accepted policy p input.groupOptions →
      ∀ q ∈ p.accessGroups, (now.addSeconds? (durationOf policy input.groupOptions q.id)).isSome) :
    ∃ answer s', ((createRequest policy user input).locally a).run.finish moments s =
        (some answer, s') ∧
      SubmissionOutcome policy user input now s.store s'.store answer := by
  have hconcludes : Concludes a policy user input now s.store s.past := by
    by_cases hp : ∃ p, s.store.Usable input.preflightId user.id p
    · obtain ⟨p, hp⟩ := hp
      by_cases h : Accepted policy p input.groupOptions
      · exact concludes_of_accepted hp h (hends p hp h)
      · exact concludes_of_refused hp h
    · exact concludes_of_missing fun p h => hp ⟨p, h⟩
  exact Attains.finish (fun s' _ => SubmissionOutcome policy user input now s.store s') hconcludes hclock

namespace TwoGroups

/-! One option gives the second group a quarter of an hour, and one names the first group. -/

def alice : User := ⟨"alice", "alice@acme.com", ∅⟩

def vault : Target := ⟨"vault", "aws", "admin", ∅, ∅, ∅⟩

def logs : Target := ⟨"logs", "aws", "audit", ∅, ∅, ∅⟩

def draft : Preflight :=
  ⟨"draft", "alice", ["vault", "logs"], [⟨"first", "admin", [vault]⟩, ⟨"second", "audit", [logs]⟩],
    ⟨0, 0⟩, none⟩

def store : MemoryStore := ((MemoryStore.empty 10).perform (.putPreflight draft)).2

def submission : Submission := ⟨"draft", none, [⟨"second", some 900⟩, ⟨"first", none⟩]⟩

def minute : Moment := ⟨.plain, ⟨60, 0⟩⟩

theorem usable_iff {p : Preflight} : store.Usable "draft" "alice" p ↔ p = draft := by
  have hstored : store.preflights["draft"]? = some draft := Std.ExtTreeMap.getElem?_insert_self
  constructor
  · exact fun h => Option.some.inj (h.stored.symm.trans hstored)
  · rintro rfl
    exact ⟨hstored, rfl, rfl⟩

theorem accepted : Accepted .standard draft submission.groupOptions where
  known := by decide
  distinct := by decide
  admitted := by simp [submission, GrantPolicy.standard]

theorem ends_representable : ∀ q ∈ draft.accessGroups,
    ((Instant.mk 60 0).addSeconds? (durationOf .standard submission.groupOptions q.id)).isSome := by
  decide +kernel

theorem granted_as_asked : (∀ n : Nat, ((fun _ => minute) n).clock = ⟨60, 0⟩) ∧ ∃ r s',
    ((createRequest .standard alice submission).locally ⟨"admins"⟩).run.finish (fun _ => minute)
      ⟨store, []⟩ = (some (.ok r), s') ∧
    r.groups.map (·.durationSeconds) = [3600, 900] ∧ s'.store.requests[r.id]? = some r := by
  refine ⟨fun _ => rfl, ?_⟩
  obtain ⟨answer, s', hrun, houtcome⟩ := submission_outcome ⟨"admins"⟩ .standard alice submission
    ⟨store, []⟩ (fun _ => minute) (fun _ => rfl) fun p hp _ q hq => by
      rw [usable_iff.mp hp] at hq
      exact ends_representable q hq
  obtain ⟨r, rfl⟩ := houtcome.succeeds.mpr ⟨draft, usable_iff.mpr rfl, accepted⟩
  obtain ⟨p, hp, hr, hs⟩ := houtcome.composed r rfl
  have hgroups := hr.groups
  rw [usable_iff.mp hp] at hgroups
  refine ⟨r, s', hrun, ?_, ?_⟩
  · obtain ⟨g, rest, hfirst, hrest, hg⟩ := List.forall₂_cons_left_iff.mp hgroups
    obtain ⟨g', rest', hsecond, hrest', rfl⟩ := List.forall₂_cons_left_iff.mp hrest
    rw [hg, List.forall₂_nil_left_iff.mp hrest', List.map_cons, List.map_cons, List.map_nil,
      hfirst.named ⟨"first", none⟩ (by decide) rfl, hsecond.named ⟨"second", some 900⟩ (by decide) rfl]
    rfl
  · rw [hs]
    exact Std.ExtTreeMap.getElem?_insert_self

end TwoGroups

end Requests

end AccessGrants
