import AccessGrants.Proofs.Alone.Strict
import AccessGrants.Proofs.Requests.Shape
import AccessGrants.Proofs.Requests.SubmissionOutcome

/-!
# AccessGrants.Proofs.Requests.SubmissionBounds

When the end of a grant is out of range, the submission breaks off. The preflight is used up by then,
and no request is stored.

* `Instant.Ordinary`         — the times from 1970 through the year 9999.
* `addSeconds?_isSome_iff`   — which durations can be added to a time.
* `Fulfilled`, `Squandered`  — what a submission leaves that is granted, and one that breaks off.
* `createRequest_runs`       — every submission that is accepted leaves the one or the other.
* `submission_completes_iff` — which accepted policies leave no room for the second.
-/

namespace AccessGrants

namespace Instant

/-- The last second of the year 9999. -/
def lastOrdinarySecond : Int :=
  (Calendar.Date.mk 9999 12 31).dayNumber * secondsPerDay + 86399

/-- A time from 1970 through the year 9999, which may be inside a leap second. -/
structure Ordinary (t : Instant) : Prop where
  first : 0 ≤ t.seconds
  last : t.seconds ≤ lastOrdinarySecond
  nanos : t.nanos < 2 * billion

/-- The longest duration that can be added to every ordinary time. -/
def longestReach : Int :=
  greatestSecond - lastOrdinarySecond

variable {t : Instant} {d : Int}

theorem shift_seconds (hd : 0 < d) (hn : t.nanos < 2 * billion) :
    (t.shift d 0).seconds = t.seconds + d := by
  have hforward : decide (0 < d) = true := decide_eq_true hd
  simp only [shift, hforward, Bool.true_or, Bool.not_true, Bool.and_false, Bool.false_and,
    Bool.false_eq_true, if_false]
  rw [billion] at hn ⊢
  split
  · omega
  · omega

theorem greatestSecond_le : greatestSecond ≤ greatestDuration := by decide

theorem Ordinary.addSeconds?_isSome_iff (ht : t.Ordinary) (hd : 0 < d) :
    (t.addSeconds? d).isSome = true ↔ t.seconds + d ≤ greatestSecond := by
  have hlow : leastSecond ≤ t.seconds + d := by
    have hleast : leastSecond ≤ 0 := by decide
    have hfirst := ht.first
    omega
  have hbound := greatestSecond_le
  have hfirst := ht.first
  rw [addSeconds?]
  split
  · rw [checked, representable, shift_seconds hd ht.nanos]
    simp [hlow]
  · rename_i hout
    refine iff_of_false (by simp) fun hreach => hout ⟨?_, ?_⟩
    · have hpos : 0 ≤ greatestDuration := by decide
      omega
    · omega

theorem Ordinary.addSeconds?_isSome (ht : t.Ordinary) (hd : 0 < d) (hreach : d ≤ longestReach) :
    (t.addSeconds? d).isSome = true := by
  rw [ht.addSeconds?_isSome_iff hd]
  have hlast := ht.last
  rw [longestReach] at hreach
  omega

end Instant

open Requests (durationOf)

/-- The preflight was used up at an allowed time, the groups were granted from allowed times on and end
in range, and the request is stored. -/
structure Fulfilled (allowed : Moment → Prop) (policy : GrantPolicy) (input : Submission)
    (p : Preflight) (s s' : MemoryStore) (r : AccessRequest) : Prop where
  preflight : r.preflightId = p.id
  groups : List.Forall₂ (fun q g => ∃ m, allowed m ∧
    (m.clock.addSeconds? (durationOf policy input.groupOptions q.id)).isSome ∧
    Opened policy input.groupOptions r.id m.clock q g) p.accessGroups r.groups
  stored : ∃ m, allowed m ∧ r.createdAt = m.clock ∧ s' = { s with
    preflights := s.preflights.insert input.preflightId { p with consumedAt := some m.clock }
    requests := s.requests.insert r.id r }

/-- The preflight was used up at an allowed time and nothing else has changed, since at an allowed time
a grant would have ended out of range. -/
structure Squandered (allowed : Moment → Prop) (policy : GrantPolicy) (input : Submission)
    (p : Preflight) (s s' : MemoryStore) : Prop where
  unending : ∃ m, allowed m ∧ ∃ q ∈ p.accessGroups,
    m.clock.addSeconds? (durationOf policy input.groupOptions q.id) = none
  usedUp : ∃ m, allowed m ∧ s' = { s with
    preflights := s.preflights.insert input.preflightId { p with consumedAt := some m.clock } }

namespace LocalWorkflow

open Service

variable {allowed : Moment → Prop} {s : MemoryStore} {past : Past}

theorem part_grantAll (group : AccessGroup) (subject : Requester) (start stop : Instant)
    (targets : List Target) :
    part (grantAll group subject start stop targets) =
      ofResources (grantAll group subject start stop targets) := by
  induction targets with
  | nil => rfl
  | cons target rest ih =>
    simp only [grantAll, part_bind, part_call, part_pure, ofResources_bind, ofResources_call,
      ofResources_pure, ih]

theorem bind_addSeconds?_eq_none {group : AccessGroup} {start : Instant}
    (h : start.addSeconds? group.durationSeconds = none) :
    group.duration?.bind start.addSeconds? = none := by
  rw [AccessGroup.duration?]
  split
  · exact h
  · rfl

theorem grant_runs (group : AccessGroup) (subject : Requester) :
    (part (grant group subject)).Runs allowed
      (fun s' _ answer => s' = s ∧ ∃ m grants, allowed m ∧ answer = .ok grants ∧
        (m.clock.addSeconds? group.durationSeconds).isSome ∧
        List.Forall₂ (GrantOpened m.clock group.durationSeconds) group.targets grants)
      (fun _ _ _ => False)
      (fun s' => s' = s ∧ ∃ m, allowed m ∧ m.clock.addSeconds? group.durationSeconds = none)
      s past := by
  rw [grant, part_bind, part_call]
  refine Attains.runs_bind (attains_now fun m hm => ?_)
  cases hstop : m.clock.addSeconds? group.durationSeconds with
  | none =>
    rw [bind_addSeconds?_eq_none hstop]
    exact ⟨rfl, m, hm, hstop⟩
  | some stop =>
    rw [stop_of_addSeconds? hstop]
    have hdone : part (Interaction.ofOption (some stop)) = pure stop := rfl
    rw [part_bind, hdone, pure_bind, part_bind, part_grantAll]
    refine Attains.runs_bind ((grantAll_attains group subject m.clock stop group.targets).mono
      (fun s' past' grants h => ?_) fun _ _ _ => False.elim)
    refine ⟨h.1, m, grants, hm, rfl, by rw [hstop]; rfl, h.2.imp fun t grant hgrant => ?_⟩
    obtain ⟨id, rfl⟩ := hgrant
    exact ⟨rfl, rfl, rfl, hstop⟩

end LocalWorkflow

namespace Requests

open Service

variable {a : GroupAuthorizer} {policy : GrantPolicy} {user : User} {input : Submission}
  {options : List GroupOption} {allowed : Moment → Prop} {p : Preflight} {s : MemoryStore}
  {past : Past}

theorem grantGroups_runs (h : Accepted policy p options) (subject : Requester) (requestId : String)
    (groups : List PreflightGroup) :
    ((grantGroups subject (groups.map (accessGroup policy requestId options))).strictly a).Runs allowed
      (fun s' _ granted => s' = s ∧ List.Forall₂ (fun q g => ∃ m, allowed m ∧
        (m.clock.addSeconds? (durationOf policy options q.id)).isSome ∧
        Opened policy options requestId m.clock q g) groups granted)
      (fun _ _ _ => False)
      (fun s' => s' = s ∧ ∃ m, allowed m ∧ ∃ q ∈ groups,
        m.clock.addSeconds? (durationOf policy options q.id) = none) s past := by
  induction groups generalizing past with
  | nil => exact ⟨rfl, .nil⟩
  | cons q rest ih =>
    rw [List.map_cons, grantGroups, strictly_bind, strictly_call, runs_bind]
    refine (LocalWorkflow.grant_runs (accessGroup policy requestId options q) subject).mono
      (fun s₁ past₁ answer h₁ => ?_) (fun _ _ _ => False.elim) fun s' hb => ?_
    · obtain ⟨rfl, m, grants, hm, rfl, hend, hgrants⟩ := h₁
      simp only [strictly_bind, strictly_pure]
      refine runs_bind.mpr (ih.mono (fun s' past' granted h' => ?_) (fun _ _ _ => id) fun s' hb => ?_)
      · exact ⟨h'.1, .cons ⟨m, hm, hend, opened_of_grants h requestId q hgrants⟩ h'.2⟩
      · obtain ⟨hs, m, hm, q, hq, hnone⟩ := hb
        exact ⟨hs, m, hm, q, List.mem_cons_of_mem _ hq, hnone⟩
    · obtain ⟨hs, m, hm, hnone⟩ := hb
      exact ⟨hs, m, hm, q, List.mem_cons_self, hnone⟩

/-- A submission that is accepted is granted, or squanders its preflight. -/
theorem createRequest_runs (hp : s.Usable input.preflightId user.id p)
    (h : Accepted policy p input.groupOptions) :
    ((createRequest policy user input).strictly a).Runs allowed
      (fun s' _ r => Fulfilled allowed policy input p s s' r) (fun _ _ _ => False)
      (fun s' => Squandered allowed policy input p s s') s past := by
  have hget := MemoryStore.getPreflight_eq_some.mpr hp
  have hfault : optionsFault? policy p [] input.groupOptions = none :=
    (optionsFault?_eq_none_iff accepted_nil).mpr h
  simp only [createRequest, strictly_bind, strictly_store, strictly_orNotFound]
  have hread : (s.perform (.getPreflight input.preflightId user.id)).2 = s := rfl
  refine Attains.runs_bind (attains_store (a := some p) (congrArg Except.ok hget) ?_)
  rw [hread]
  refine Attains.runs_bind (attains_orNotFound_some.mpr ?_)
  rw [hfault]
  dsimp only
  simp only [strictly_bind, strictly_store, strictly_now]
  refine Attains.runs_bind (attains_now fun m hm => ?_)
  have hclaim : s.perform (.claimPreflight input.preflightId user.id m.clock) =
      (.ok (some { p with consumedAt := some m.clock }),
        { s with
          preflights :=
            s.preflights.insert input.preflightId { p with consumedAt := some m.clock } }) := by
    simp [MemoryStore.perform, MemoryStore.claimPreflight, hget]
  refine Attains.runs_bind (attains_store (a := some { p with consumedAt := some m.clock })
    (congrArg Prod.fst hclaim) ?_)
  rw [hclaim]
  simp only [strictly_bind, strictly_freshId, strictly_store, strictly_count, strictly_emit,
    strictly_pure]
  refine Attains.runs_bind (attains_freshId fun id => ?_)
  refine runs_bind.mpr ((grantGroups_runs h user.requester id p.accessGroups).mono
    (fun s' past' groups hg => ?_) (fun _ _ _ => False.elim) fun s' hb => ?_)
  · obtain ⟨rfl, hg⟩ := hg
    refine Attains.runs_bind (attains_store rfl (Attains.runs_bind (attains_count ?_)))
    refine Attains.runs_bind (attains_count (Attains.runs_bind (attains_emit fun _ => ?_)))
    exact ⟨rfl, hg, m, hm, rfl, rfl⟩
  · exact ⟨hb.2, m, hm, hb.1⟩

/-- The run of a submission, with the collaborators that need nothing but the resources. It has no answer
where it breaks off. -/
def submitted (a : GroupAuthorizer) (policy : GrantPolicy) (user : User) (input : Submission)
    (moments : Nat → Moment) (s : Session) : Option (Except ServiceError AccessRequest) × Session :=
  (Proc.ofResources (Proc.locally a (createRequest policy user input).run)).finish moments s

theorem submitted_cases (allowed : Moment → Prop) {s : Session}
    (hp : s.store.Usable input.preflightId user.id p)
    (h : Accepted policy p input.groupOptions) {moments : Nat → Moment}
    (hm : ∀ n, allowed (moments n)) :
    (∃ r s', submitted a policy user input moments s = (some (.ok r), s') ∧
      Fulfilled allowed policy input p s.store s'.store r) ∨
    ∃ s', submitted a policy user input moments s = (none, s') ∧
      Squandered allowed policy input p s.store s'.store := by
  rw [submitted, ← strictly_run]
  rcases Interaction.runs_finish (createRequest_runs hp h) hm with
    ⟨answer, s', hrun, hend⟩ | ⟨s', hrun, hbroken⟩
  · cases answer with
    | ok r => exact .inl ⟨r, s', hrun, hend⟩
    | error e => exact hend.elim
  · exact .inr ⟨s', hrun, hbroken⟩

theorem submitted_still {s : Session} {now : Instant} (hp : s.store.Usable input.preflightId user.id p)
    (h : Accepted policy p input.groupOptions) {moments : Nat → Moment}
    (hnow : ∀ n, (moments n).clock = now) :
    ((∀ q ∈ p.accessGroups, (now.addSeconds? (durationOf policy input.groupOptions q.id)).isSome) →
      ∃ r s', submitted a policy user input moments s = (some (.ok r), s') ∧
        Fulfilled (·.clock = now) policy input p s.store s'.store r) ∧
    ((∃ q ∈ p.accessGroups, now.addSeconds? (durationOf policy input.groupOptions q.id) = none) →
      ∃ s', submitted a policy user input moments s = (none, s') ∧
        Squandered (·.clock = now) policy input p s.store s'.store) := by
  rcases submitted_cases (a := a) (·.clock = now) hp h hnow with ⟨r, s', hrun, hend⟩ | hbroken
  · refine ⟨fun _ => ⟨r, s', hrun, hend⟩, ?_⟩
    rintro ⟨q, hq, hnone⟩
    obtain ⟨hlength, hgroups⟩ := List.forall₂_iff_get.mp hend.groups
    obtain ⟨i, rfl⟩ := List.mem_iff_get.mp hq
    obtain ⟨m, hm, hsome, -⟩ := hgroups i i.2 (hlength ▸ i.2)
    rw [hm, hnone] at hsome
    cases hsome
  · refine ⟨fun hsome => ?_, fun _ => hbroken⟩
    obtain ⟨s', -, ⟨m, hm, q, hq, hnone⟩, -⟩ := hbroken
    have hsome := hsome q hq
    rw [← hm, hnone] at hsome
    cases hsome

theorem submitted_of_le_longestReach {s : Session} (hvalid : policy.validate = .ok ())
    (hreach : policy.maxDuration ≤ Instant.longestReach)
    (hp : s.store.Usable input.preflightId user.id p)
    (hoptions : optionsFault? policy p [] input.groupOptions = none) {moments : Nat → Moment}
    (hordinary : ∀ n, (moments n).clock.Ordinary) :
    ∃ r s', submitted a policy user input moments s = (some (.ok r), s') ∧
      Fulfilled (·.clock.Ordinary) policy input p s.store s'.store r := by
  have h : Accepted policy p input.groupOptions := (optionsFault?_eq_none_iff accepted_nil).mp hoptions
  rcases submitted_cases (a := a) (·.clock.Ordinary) hp h hordinary with hend | hbroken
  · exact hend
  · obtain ⟨s', -, ⟨m, hm, q, -, hnone⟩, -⟩ := hbroken
    obtain ⟨hpos, hmax⟩ := durationOf_bounds q.id hvalid (admits_of_optionsFault? hoptions)
    have hsome := hm.addSeconds?_isSome hpos (Int.le_trans hmax hreach)
    rw [hnone] at hsome
    cases hsome

/-! ## Beyond the longest reach -/

namespace Horizon

/-! A grant of the longest duration is asked for in the last second of the year 9999. -/

def submission (policy : GrantPolicy) : Submission :=
  ⟨"draft", none, [⟨"first", some policy.maxDuration⟩]⟩

def lastSecond : Moment := ⟨.plain, ⟨Instant.lastOrdinarySecond, 0⟩⟩

theorem ordinary_lastSecond : lastSecond.clock.Ordinary where
  first := by decide
  last := by decide
  nanos := by decide

theorem accepted (hpos : 0 < policy.maxDuration) :
    Accepted policy TwoGroups.draft (submission policy).groupOptions where
  known := by simp [submission, TwoGroups.draft]
  distinct := List.nodup_singleton _
  admitted := by
    simp only [submission, List.mem_singleton, forall_eq, Option.some.injEq]
    rintro d rfl
    omega

/-- One second more than can be added to the last second of the year. -/
theorem addSeconds?_eq_none {d : Int} (hpos : 0 < d) (hfar : Instant.longestReach < d) :
    lastSecond.clock.addSeconds? d = none := by
  have hbeyond : ¬ lastSecond.clock.seconds + d ≤ Instant.greatestSecond := by
    have hclock : lastSecond.clock.seconds = Instant.lastOrdinarySecond := rfl
    rw [Instant.longestReach] at hfar
    omega
  rw [← ordinary_lastSecond.addSeconds?_isSome_iff hpos] at hbeyond
  exact Option.not_isSome_iff_eq_none.mp hbeyond

theorem submitted_eq_none (a : GroupAuthorizer) (hpos : 0 < policy.maxDuration)
    (hfar : Instant.longestReach < policy.maxDuration) :
    (submitted a policy TwoGroups.alice (submission policy) (fun _ => lastSecond)
      ⟨TwoGroups.store, []⟩).1 = none := by
  have hp : (Session.mk TwoGroups.store []).store.Usable (submission policy).preflightId
      TwoGroups.alice.id TwoGroups.draft := TwoGroups.usable_iff.mpr rfl
  have hnow : ∀ n : Nat, ((fun _ => lastSecond) n : Moment).clock = lastSecond.clock := fun _ => rfl
  have hstill := submitted_still (a := a) hp (accepted hpos) hnow
  have hduration : durationOf policy (submission policy).groupOptions "first" = policy.maxDuration := by
    simp [submission, durationOf]
  obtain ⟨s', hrun, -⟩ := hstill.2 ⟨⟨"first", "admin", [TwoGroups.vault]⟩, List.mem_cons_self, by
    rw [hduration]
    exact addSeconds?_eq_none hpos hfar⟩
  rw [hrun]

end Horizon

/-- An accepted policy makes every accepted submission end in a stored request, at all times from 1970
through the year 9999, exactly when its longest duration can be added to all of these times. At one time
a submission is granted when the end of each of its groups is in range. Otherwise it breaks off after
the preflight was used up, and nothing else has changed then. -/
theorem submission_completes_iff (hvalid : policy.validate = .ok ()) :
    ((∀ (a : GroupAuthorizer) (user : User) (input : Submission) (p : Preflight) (s : Session)
        (moments : Nat → Moment), s.store.Usable input.preflightId user.id p →
        optionsFault? policy p [] input.groupOptions = none → (∀ n, (moments n).clock.Ordinary) →
        ∃ r s', submitted a policy user input moments s = (some (.ok r), s') ∧
          Fulfilled (·.clock.Ordinary) policy input p s.store s'.store r) ↔
      policy.maxDuration ≤ Instant.longestReach) ∧
    ∀ (a : GroupAuthorizer) (user : User) (input : Submission) (p : Preflight) (s : Session)
      (moments : Nat → Moment) (now : Instant), s.store.Usable input.preflightId user.id p →
      optionsFault? policy p [] input.groupOptions = none → (∀ n, (moments n).clock = now) →
      ((∀ q ∈ p.accessGroups, (now.addSeconds? (durationOf policy input.groupOptions q.id)).isSome) →
        ∃ r s', submitted a policy user input moments s = (some (.ok r), s') ∧
          Fulfilled (·.clock = now) policy input p s.store s'.store r) ∧
      ((∃ q ∈ p.accessGroups, now.addSeconds? (durationOf policy input.groupOptions q.id) = none) →
        ∃ s', submitted a policy user input moments s = (none, s') ∧
          Squandered (·.clock = now) policy input p s.store s'.store) := by
  refine ⟨⟨fun hall => ?_, fun hreach a user input p s moments hp hoptions hordinary =>
    submitted_of_le_longestReach hvalid hreach hp hoptions hordinary⟩,
    fun a user input p s moments now hp hoptions hnow =>
      submitted_still hp ((optionsFault?_eq_none_iff accepted_nil).mp hoptions) hnow⟩
  by_contra hfar
  have hpos : 0 < policy.maxDuration := by
    rw [GrantPolicy.validate] at hvalid
    split at hvalid
    · cases hvalid
    · omega
  obtain ⟨r, s', hrun, -⟩ := hall ⟨"admins"⟩ TwoGroups.alice (Horizon.submission policy) TwoGroups.draft
    ⟨TwoGroups.store, []⟩ (fun _ => Horizon.lastSecond) (TwoGroups.usable_iff.mpr rfl)
    ((optionsFault?_eq_none_iff accepted_nil).mpr (Horizon.accepted hpos))
    fun _ => Horizon.ordinary_lastSecond
  have hnone := Horizon.submitted_eq_none ⟨"admins"⟩ hpos (Int.not_le.mp hfar)
  rw [hrun] at hnone
  cases hnone

/-- With the standard durations nothing can go wrong. -/
theorem standard_completes : GrantPolicy.standard.validate = .ok () ∧ ∃ r s',
    submitted ⟨"admins"⟩ .standard TwoGroups.alice TwoGroups.submission (fun _ => TwoGroups.minute)
      ⟨TwoGroups.store, []⟩ = (some (.ok r), s') ∧ s'.store.requests[r.id]? = some r := by
  have hvalid : GrantPolicy.standard.validate = .ok () := rfl
  have hordinary : TwoGroups.minute.clock.Ordinary := ⟨by decide, by decide, by decide⟩
  obtain ⟨r, s', hrun, hend⟩ := (submission_completes_iff hvalid).1.mpr (by decide) ⟨"admins"⟩
    TwoGroups.alice TwoGroups.submission TwoGroups.draft ⟨TwoGroups.store, []⟩
    (fun _ => TwoGroups.minute) (TwoGroups.usable_iff.mpr rfl)
    ((optionsFault?_eq_none_iff accepted_nil).mpr TwoGroups.accepted) fun _ => hordinary
  obtain ⟨m, -, -, hs⟩ := hend.stored
  refine ⟨hvalid, r, s', hrun, ?_⟩
  rw [hs]
  exact Std.ExtTreeMap.getElem?_insert_self

namespace Unbounded

/-! The greatest number is accepted as the longest duration, and more time is asked for than is left. -/

def lavish : GrantPolicy := ⟨3600, 9223372036854775807⟩

def draft : Preflight :=
  ⟨"draft", "alice", ["vault"], [⟨"first", "admin", [TwoGroups.vault]⟩], ⟨1717232400, 0⟩, none⟩

def store : MemoryStore := ((MemoryStore.empty 50).perform (.putPreflight draft)).2

def submission : Submission := ⟨"draft", none, [⟨"first", some 8208549644400⟩]⟩

/-- The first of June 2024, nine in the morning. -/
def morning : Moment := ⟨.plain, ⟨1717232400, 0⟩⟩

def outcome : Option (Except ServiceError AccessRequest) × Session :=
  submitted ⟨"admins"⟩ lavish TwoGroups.alice submission (fun _ => morning) ⟨store, []⟩

/-- The submission is accepted, and leaves neither a preflight that can be used nor a request. -/
theorem accepted_breaks_off : lavish.validate = .ok () ∧ store.Usable "draft" "alice" draft ∧
    optionsFault? lavish draft [] submission.groupOptions = none ∧ morning.clock.Ordinary ∧
    outcome.1 = none ∧ outcome.2.store.getPreflight "draft" "alice" = none ∧
    outcome.2.store.requestCount = 0 := by
  refine ⟨rfl, ⟨Std.ExtTreeMap.getElem?_insert_self, rfl, rfl⟩, by decide,
    ⟨by decide, by decide, by decide⟩, Option.isNone_iff_eq_none.mp ?_, ?_, ?_⟩
  · decide +kernel
  · decide +kernel
  · decide +kernel

end Unbounded

end Requests

end AccessGrants
