import AccessGrants.Proofs.Requests.Rules
import AccessGrants.Proofs.Requests.Settlement

/-!
# AccessGrants.Proofs.Requests.Revocations

Revocations side by side, with the workflow that only records grants.

* `revocations`      — any number of actors who revoke any requests.
* `Revocation.rule`  — a revocation reads once, looks at the clock once, asks the workflow once,
                       writes once, and then reports what the workflow revoked.
* `revoke_obeys`     — it keeps the rule, and at its end everything is reported.
* `Progress`         — what is known of its past.
-/

namespace AccessGrants

namespace Exchange

/-- The time that the clock showed. -/
def noted? : Exchange Call.Reply → Option Instant
  | ⟨.resource .now, some t⟩ => some t
  | _ => none

/-- What the workflow was to revoke, for whom, and its answer. -/
def decided? : Exchange Call.Reply →
    Option (AccessRequest × String × Except WorkflowError (List Grant))
  | ⟨.revoke r actorId _, some verdict⟩ => some (r, actorId, verdict)
  | _ => none

/-- The event that was sent, whether it arrived or not. -/
def emitted? : Exchange Call.Reply → Option AccessEvent
  | ⟨.resource (.emit event), _⟩ => some event
  | _ => none

end Exchange

open Exchange

/-- A request to revoke the grants of an access request. -/
structure Revocation where
  actor : User
  id : String

namespace Revocation

variable (o : Revocation) (past : Past)

/-- A request was read, and the workflow has decided about it at a time. -/
def Decided (r : AccessRequest) (t : Instant) (verdict : Except WorkflowError (List Grant)) : Prop :=
  told read? past = [r] ∧ told noted? past = [t] ∧
    told decided? past = [((r.expireElapsed t).1, o.actor.id, verdict)]

/-- The reports of revoked grants. -/
def reports (r : AccessRequest) (revoked : List Grant) : List AccessEvent :=
  revoked.map fun g => .grantRevoked r.id g.id o.actor.id

def rule : Call → Prop
  | .resource (.store (.getRequest id)) => id = o.id ∧ told read? past = []
  | .resource .now => told noted? past = []
  | .revoke r actorId _ => told decided? past = [] ∧ actorId = o.actor.id ∧
      ∃ r₀ t, told read? past = [r₀] ∧ told noted? past = [t] ∧ r = (r₀.expireElapsed t).1
  | .resource (.store (.putRequest q)) => told stored? past = [] ∧
      ∃ r t verdict, o.Decided past r t verdict ∧ q = r.outcome t verdict
  | .resource (.emit event) => ∃ r t revoked, o.Decided past r t (.ok revoked) ∧
      told stored? past = [r.outcome t (.ok revoked)] ∧
      (told emitted? past).reverse ++ [event] <+: o.reports r revoked
  | .resource (.count _) | .isAdmin _ | .isReviewer _ _ => True
  | _ => False

/-- At the end of a revocation every grant that it has revoked is reported. -/
def Reported : Prop :=
  ∀ r t revoked, o.Decided past r t (.ok revoked) → told stored? past ≠ [] →
    (told emitted? past).reverse = o.reports r revoked

/-- A request was read, and nothing else was done. -/
def Viewed (r : AccessRequest) : Prop :=
  told read? past = [r] ∧ told noted? past = [] ∧ told decided? past = [] ∧
    told stored? past = [] ∧ told emitted? past = []

end Revocation

open Revocation

theorem Revocation.Decided.unique {o : Revocation} {past : Past} {r r' : AccessRequest}
    {t t' : Instant} {v v' : Except WorkflowError (List Grant)} (h : o.Decided past r t v)
    (h' : o.Decided past r' t' v') : r = r' ∧ t = t' ∧ v = v' := by
  obtain ⟨hr, ht, hv⟩ := h
  obtain ⟨hr', ht', hv'⟩ := h'
  rw [hr] at hr'
  rw [ht] at ht'
  rw [hv] at hv'
  cases hr'
  cases ht'
  cases hv'
  exact ⟨rfl, rfl, rfl⟩

theorem Revocation.Decided.mem_read {o : Revocation} {past : Past} {r : AccessRequest} {t : Instant}
    {v : Except WorkflowError (List Grant)} (h : o.Decided past r t v) : r ∈ told read? past := by
  rw [h.1]
  exact List.mem_cons_self

theorem Revocation.reported_of_undecided {o : Revocation} {past : Past}
    (h : told decided? past = []) : o.Reported past := by
  rintro r t revoked ⟨-, -, hd⟩ -
  rw [h] at hd
  cases hd

theorem Revocation.visibleRequest_obeys (o : Revocation) :
    (Requests.visibleRequest o.actor o.id).Obeys o.rule (fun past r => Viewed past r)
      (fun past _ => o.Reported past) [] := by
  simp only [Requests.visibleRequest, Service.obeys_bind, Service.obeys_store,
    Service.obeys_orNotFound]
  refine ⟨⟨rfl, rfl⟩, fun found => ⟨?_, fun _ => reported_of_undecided rfl⟩,
    fun _ => reported_of_undecided rfl⟩
  rintro r rfl
  split
  · exact ⟨rfl, rfl, rfl, rfl, rfl⟩
  · simp only [Service.obeys_bind, Service.obeys_call, Service.obeys_verdict]
    refine ⟨trivial, fun answer => ⟨fun admin _ => ?_, fun _ _ => reported_of_undecided rfl⟩⟩
    cases admin with
    | true => exact ⟨rfl, rfl, rfl, rfl, rfl⟩
    | false =>
      simp only [Bool.false_eq_true, if_false, Service.obeys_bind, Service.obeys_call,
        Service.obeys_verdict]
      refine ⟨trivial, fun answer => ⟨fun reviewer _ => ?_, fun _ _ => reported_of_undecided rfl⟩⟩
      cases reviewer with
      | true => exact ⟨rfl, rfl, rfl, rfl, rfl⟩
      | false => exact reported_of_undecided rfl

/-- The grants still to be reported and the reports made so far are the reports of all. -/
theorem Revocation.emitRevoked_obeys (o : Revocation) (r : AccessRequest) (t : Instant)
    (revoked grants : List Grant) {past : Past}
    (hd : o.Decided past r t (.ok revoked)) (hs : told stored? past = [r.outcome t (.ok revoked)])
    (he : (told emitted? past).reverse ++ o.reports r grants = o.reports r revoked) :
    (Requests.emitRevoked r.id o.actor.id grants).Obeys o.rule (fun past _ => o.Reported past)
      (fun _ _ => False) past := by
  induction grants generalizing past with
  | nil =>
    simp only [Requests.emitRevoked, Service.obeys_pure]
    intro r' t' revoked' hd' _
    obtain ⟨rfl, -, hv⟩ := hd.unique hd'
    cases hv
    simpa [reports] using he
  | cons g grants ih =>
    simp only [Requests.emitRevoked, Service.obeys_bind, Service.obeys_emit]
    refine ⟨⟨r, t, revoked, hd, hs, o.reports r grants, by simpa [reports] using he⟩, fun _ => ?_⟩
    exact ih hd hs (by simpa [reports, emitted?] using he)

theorem Revocation.revoke_obeys (o : Revocation) :
    (Requests.revokeRequest o.actor o.id).Obeys o.rule (fun past _ => o.Reported past)
      (fun past _ => o.Reported past) [] := by
  simp only [Requests.revokeRequest, Service.obeys_bind]
  refine (o.visibleRequest_obeys).mono (fun past r hr => ?_) fun _ _ h => h
  obtain ⟨hread, hnoted, hdecided, hstored, hemitted⟩ := hr
  simp only [Service.obeys_now, Service.obeys_call]
  refine ⟨hnoted, fun t => ⟨⟨hdecided, rfl, r, t, hread, by simp [noted?, hnoted], rfl⟩, ?_⟩⟩
  have decided : ∀ v, o.Decided (⟨.revoke (r.expireElapsed t).1 o.actor.id o.actor.email, some v⟩ ::
      ⟨.resource .now, some t⟩ :: past) r t v := by
    intro v
    refine ⟨hread, ?_, ?_⟩
    · simp [noted?, hnoted]
    · simp [decided?, hdecided]
  rintro (e | revoked)
  · -- the workflow refuses: what has expired is written, and there is nothing to report
    have silent : ∀ {past}, o.Decided past r t (.error e) → o.Reported past := by
      intro past hd r' t' revoked hd' _
      obtain ⟨-, -, hv⟩ := hd.unique hd'
      cases hv
    cases (r.expireElapsed t).2 with
    | false => exact silent (decided (.error e))
    | true =>
      simp only [if_true, Service.obeys_bind, Service.obeys_store, Service.obeys_throw]
      refine ⟨⟨hstored, r, t, .error e, decided (.error e), rfl⟩, fun _ => ?_, fun _ => ?_⟩
      · exact silent (decided (.error e))
      · exact silent (decided (.error e))
  · simp only [Service.obeys_bind, Service.obeys_store, Service.obeys_count]
    refine ⟨⟨hstored, r, t, .ok revoked, decided (.ok revoked), rfl⟩, fun _ => ⟨trivial, ?_⟩,
      fun _ => fun r' t' revoked' hd' hne => absurd hstored hne⟩
    rw [show ((r.expireElapsed t).1.applyUpdates revoked t).1.id = r.id from
      (r.outcome_sameAs t (.ok revoked)).1]
    refine (o.emitRevoked_obeys r t revoked revoked ?_ ?_ ?_).mono (fun _ _ h => h)
      fun _ _ h => h.elim
    · exact decided (.ok revoked)
    · simp [stored?, hstored]
      rfl
    · simp [emitted?, hemitted]

/-! ## What is known of its past -/

namespace Revocation

variable {o : Revocation} {past : Past} {c : Call}

theorem rule_cases (h : o.rule past c) :
    (∃ id, c = .resource (.store (.getRequest id)) ∧ told read? past = []) ∨
    (c = .resource .now ∧ told noted? past = []) ∨
    (∃ r t email, c = .revoke (r.expireElapsed t).1 o.actor.id email ∧ told decided? past = [] ∧
      told read? past = [r] ∧ told noted? past = [t]) ∨
    (∃ r t v, c = .resource (.store (.putRequest (r.outcome t v))) ∧ told stored? past = [] ∧
      o.Decided past r t v) ∨
    (∃ event r t revoked, c = .resource (.emit event) ∧ o.Decided past r t (.ok revoked) ∧
      told stored? past = [r.outcome t (.ok revoked)] ∧
      (told emitted? past).reverse ++ [event] <+: o.reports r revoked) ∨
    ∀ reply, read? ⟨c, reply⟩ = none ∧ noted? ⟨c, reply⟩ = none ∧ decided? ⟨c, reply⟩ = none ∧
      stored? ⟨c, reply⟩ = none ∧ emitted? ⟨c, reply⟩ = none := by
  unfold rule at h
  split at h
  · exact .inl ⟨_, rfl, h.2⟩
  · exact .inr (.inl ⟨rfl, h⟩)
  · obtain ⟨hd, rfl, r, t, hr, ht, rfl⟩ := h
    exact .inr (.inr (.inl ⟨r, t, _, rfl, hd, hr, ht⟩))
  · obtain ⟨hs, r, t, v, hd, rfl⟩ := h
    exact .inr (.inr (.inr (.inl ⟨r, t, v, rfl, hs, hd⟩)))
  · obtain ⟨r, t, revoked, hd, hs, he⟩ := h
    exact .inr (.inr (.inr (.inr (.inl ⟨_, r, t, revoked, rfl, hd, hs, he⟩))))
  · exact .inr (.inr (.inr (.inr (.inr fun _ => ⟨rfl, rfl, rfl, rfl, rfl⟩))))
  · exact .inr (.inr (.inr (.inr (.inr fun _ => ⟨rfl, rfl, rfl, rfl, rfl⟩))))
  · exact .inr (.inr (.inr (.inr (.inr fun _ => ⟨rfl, rfl, rfl, rfl, rfl⟩))))
  · exact h.elim

/-- A decision stands: nothing of it is asked a second time. -/
theorem Decided.cons {r : AccessRequest} {t : Instant} {v : Except WorkflowError (List Grant)}
    (h : o.Decided past r t v) (hc : o.rule past c) (reply : Option c.Reply) :
    o.Decided (⟨c, reply⟩ :: past) r t v := by
  obtain ⟨hr, ht, hv⟩ := h
  rcases rule_cases hc with ⟨id, rfl, hn⟩ | ⟨rfl, hn⟩ | ⟨_, _, _, rfl, hn, -⟩ | ⟨_, _, _, rfl, -⟩ |
    ⟨_, _, _, _, rfl, -⟩ | hm
  · rw [hr] at hn
    cases hn
  · rw [ht] at hn
    cases hn
  · rw [hv] at hn
    cases hn
  · exact ⟨hr, ht, hv⟩
  · exact ⟨hr, ht, hv⟩
  · obtain ⟨mr, mn, md, -⟩ := hm reply
    simp only [Decided, told_cons, mr, mn, md]
    exact ⟨hr, ht, hv⟩

/-- What a revocation has written is the outcome of its decision, and what it has reported is the
beginning of the reports of that. -/
structure Progress (o : Revocation) (past : Past) : Prop where
  stored : told stored? past = [] ∨
    ∃ r t v, o.Decided past r t v ∧ told stored? past = [r.outcome t v]
  emitted : told emitted? past = [] ∨
    ∃ r t revoked, o.Decided past r t (.ok revoked) ∧
      told stored? past = [r.outcome t (.ok revoked)] ∧
      (told emitted? past).reverse <+: o.reports r revoked

theorem Progress.of_kept (h : Interaction.Kept o.rule past) : o.Progress past := by
  induction past with
  | nil => exact ⟨.inl rfl, .inl rfl⟩
  | cons e past ih =>
    obtain ⟨hc, h⟩ := h
    obtain ⟨hst, hem⟩ := ih h
    obtain ⟨c, reply⟩ := e
    have keep : stored? ⟨c, reply⟩ = none → emitted? ⟨c, reply⟩ = none →
        o.Progress (⟨c, reply⟩ :: past) := by
      intro hs he
      constructor
      · rw [told_cons, hs]
        rcases hst with hst | ⟨r, t, v, hd, hst⟩
        · exact .inl hst
        · exact .inr ⟨r, t, v, hd.cons hc reply, hst⟩
      · rw [told_cons, told_cons, hs, he]
        rcases hem with hem | ⟨r, t, revoked, hd, hst, hpre⟩
        · exact .inl hem
        · exact .inr ⟨r, t, revoked, hd.cons hc reply, hst, hpre⟩
    rcases rule_cases hc with ⟨id, rfl, -⟩ | ⟨rfl, -⟩ | ⟨_, _, _, rfl, -⟩ | ⟨r, t, v, rfl, hn, hd⟩ |
      ⟨event, r, t, revoked, rfl, hd, hs, hpre⟩ | hm
    · exact keep rfl rfl
    · exact keep rfl rfl
    · exact keep rfl rfl
    · have hnone : told emitted? past = [] := by
        rcases hem with hem | ⟨_, _, _, -, hst, -⟩
        · exact hem
        · rw [hn] at hst
          cases hst
      refine ⟨?_, .inl hnone⟩
      rcases reply with _ | _ | _
      · exact .inl hn
      · exact .inl hn
      · exact .inr ⟨r, t, v, hd, by simp [stored?, hn]⟩
    · refine ⟨.inr ⟨r, t, .ok revoked, hd, hs⟩, .inr ⟨r, t, revoked, hd, hs, ?_⟩⟩
      simpa [emitted?] using hpre
    · obtain ⟨-, -, -, hs, he⟩ := hm reply
      exact keep hs he

end Revocation

/-- Any number of actors who revoke any requests, with the workflow that only records grants. -/
abbrev revocations : Pool where
  Op := Revocation
  Result _ := AccessRequest
  program o := Requests.revokeRequest o.actor o.id
  view x := { x with revoke := fun r actorId _ => some (LocalWorkflow.revoke r actorId) }

theorem Revocation.perform_isSome {o : Revocation} {past : Past} {c : Call} (h : o.rule past c)
    (x : Surroundings) (w : World) : ∃ r w', w.perform (revocations.view x) c = some (r, w') := by
  unfold Revocation.rule at h
  split at h
  all_goals first | exact ⟨_, _, rfl⟩ | exact h.elim

end AccessGrants
