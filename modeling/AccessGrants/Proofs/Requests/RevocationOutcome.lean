import AccessGrants.Proofs.Alone.Attain
import AccessGrants.Proofs.Requests.Shape
import AccessGrants.Proofs.Store.Rows

/-!
# AccessGrants.Proofs.Requests.RevocationOutcome

What becomes of a revocation that nothing interferes with, with the workflow that only records grants
and authorization by groups.

* `AccessRequest.ShownTo` — who may see a request, and so revoke it.
* `Grant.Running`         — what there is to revoke.
* `RevocationOutcome`     — when a revocation succeeds, what it changes and reports, and why others fail.
* `applyUpdates_running`  — the copies of the running grants settle the request.
* `follow`                — the operation after the verdict of the workflow.
* `revocation_outcome`    — every revocation has this outcome.
-/

namespace AccessGrants

open Exchange (emitted?)

/-- An active grant whose end has not come. -/
def Grant.Running (now : Instant) (g : Grant) : Prop :=
  g.status = .active ∧ now < g.stop

instance (now : Instant) (g : Grant) : Decidable (g.Running now) :=
  inferInstanceAs (Decidable (_ ∧ _))

/-- A request is shown to its requester, to administrators, and to the reviewers that it lists by id or
by email. -/
def AccessRequest.ShownTo (a : GroupAuthorizer) (user : User) (r : AccessRequest) : Prop :=
  r.requestedBy.id = user.id ∨ a.adminGroup ∈ user.groups ∨ user.id ∈ r.reviewers ∨
    user.email ∈ r.reviewers

instance (a : GroupAuthorizer) (user : User) (r : AccessRequest) : Decidable (r.ShownTo a user) :=
  inferInstanceAs (Decidable (_ ∨ _))

/-- What is answered to a revocation, and what is stored and was reported then. What was reported last
stands first. -/
structure RevocationOutcome (a : GroupAuthorizer) (actor : User) (id : String) (now : Instant)
    (s s' : Session) (answer : Except ServiceError AccessRequest) : Prop where
  hidden : (∀ r, s.store.requests[id]? = some r → ¬ r.ShownTo a actor) →
    answer = .error (.notFound ("request " ++ id)) ∧ s'.store = s.store
  bare : ∀ r, s.store.requests[id]? = some r → r.ShownTo a actor → r.grants = [] →
    answer = .error .noGrant ∧ s'.store = s.store
  inactive : ∀ r, s.store.requests[id]? = some r → r.ShownTo a actor → r.grants ≠ [] →
    (∀ g ∈ r.grants, ¬ g.Running now) → answer = .error .grantInactive ∧
      s'.store = { s.store with
        requests := s.store.requests.insert id (Requests.current now r) }
  revoked : ∀ r, s.store.requests[id]? = some r → r.ShownTo a actor →
    (r.grants.map (·.id)).Nodup → (∃ g ∈ r.grants, g.Running now) →
    ∃ r', answer = .ok r' ∧ r' = { r.mapGrants (·.settle actor.id now) with updatedAt := now } ∧
      s'.store = { s.store with requests := s.store.requests.insert id r' } ∧
      told emitted? s'.past = ((r.grants.filter (·.Running now)).map fun g =>
        AccessEvent.grantRevoked id g.id actor.id).reverse ++ told emitted? s.past
  silent : ∀ e, answer = .error e → told emitted? s'.past = told emitted? s.past

namespace RevocationOutcome

variable {a : GroupAuthorizer} {actor : User} {id : String} {now : Instant} {s s' : Session}
  {r r' : AccessRequest}

theorem of_hidden (h : ∀ r, s.store.requests[id]? = some r → ¬ r.ShownTo a actor)
    (hs : s'.store = s.store) (he : told emitted? s'.past = told emitted? s.past) :
    RevocationOutcome a actor id now s s' (.error (.notFound ("request " ++ id))) where
  hidden _ := ⟨rfl, hs⟩
  bare r hr hshown := absurd hshown (h r hr)
  inactive r hr hshown := absurd hshown (h r hr)
  revoked r hr hshown := absurd hshown (h r hr)
  silent _ _ := he

theorem of_bare (hr : s.store.requests[id]? = some r) (hshown : r.ShownTo a actor)
    (hbare : r.grants = []) (hs : s'.store = s.store)
    (he : told emitted? s'.past = told emitted? s.past) :
    RevocationOutcome a actor id now s s' (.error .noGrant) where
  hidden h := absurd hshown (h r hr)
  bare _ _ _ _ := ⟨rfl, hs⟩
  inactive r' hr' _ hne := by
    cases hr.symm.trans hr'
    exact absurd hbare hne
  revoked r' hr' _ _ := by
    rintro ⟨g, hg, -⟩
    cases hr.symm.trans hr'
    rw [hbare] at hg
    cases hg
  silent _ _ := he

theorem of_inactive (hr : s.store.requests[id]? = some r) (hshown : r.ShownTo a actor)
    (hne : r.grants ≠ []) (hnone : ∀ g ∈ r.grants, ¬ g.Running now)
    (hs : s'.store = { s.store with
      requests := s.store.requests.insert id (Requests.current now r) })
    (he : told emitted? s'.past = told emitted? s.past) :
    RevocationOutcome a actor id now s s' (.error .grantInactive) where
  hidden h := absurd hshown (h r hr)
  bare r' hr' _ hbare := by
    cases hr.symm.trans hr'
    exact absurd hbare hne
  inactive r' hr' _ _ _ := by
    cases hr.symm.trans hr'
    exact ⟨rfl, hs⟩
  revoked r' hr' _ _ := by
    rintro ⟨g, hg, hrunning⟩
    cases hr.symm.trans hr'
    exact absurd hrunning (hnone g hg)
  silent _ _ := he

theorem of_revoked (hr : s.store.requests[id]? = some r) (hshown : r.ShownTo a actor)
    {g : Grant} (hg : g ∈ r.grants) (hrunning : g.Running now)
    (h : (r.grants.map (·.id)).Nodup →
      r' = { r.mapGrants (·.settle actor.id now) with updatedAt := now } ∧
      s'.store = { s.store with requests := s.store.requests.insert id r' } ∧
      told emitted? s'.past = ((r.grants.filter (·.Running now)).map fun g =>
        AccessEvent.grantRevoked id g.id actor.id).reverse ++ told emitted? s.past) :
    RevocationOutcome a actor id now s s' (.ok r') where
  hidden hnone := absurd hshown (hnone r hr)
  bare r'' hr'' _ hbare := by
    cases hr.symm.trans hr''
    rw [hbare] at hg
    cases hg
  inactive r'' hr'' _ _ hnone := by
    cases hr.symm.trans hr''
    exact absurd hrunning (hnone g hg)
  revoked r'' hr'' _ hn _ := by
    cases hr.symm.trans hr''
    exact ⟨r', rfl, h hn⟩
  silent := nofun

end RevocationOutcome

/-! ## What the workflow revokes -/

theorem Instant.not_le {t t' : Instant} : ¬ t ≤ t' ↔ t' < t := by
  rw [le_iff, lt_iff]
  omega

namespace Grant

variable {g : Grant} {now : Instant}

theorem isActive_expireIfElapsed_iff : (g.expireIfElapsed now).isActive = true ↔ g.Running now := by
  rw [Running, ← Instant.not_le, expireIfElapsed, elapsed]
  by_cases hactive : g.status = .active
  · by_cases hstop : g.stop ≤ now
    · simp [isActive, hactive, hstop]
    · simp [isActive, hactive, hstop]
  · simp [isActive, hactive]

end Grant

namespace AccessRequest

theorem shownTo_iff {r : AccessRequest} {authorizer : GroupAuthorizer} {user : User} :
    r.ShownTo authorizer user ↔ r.requestedBy.id = user.id ∨ authorizer.isAdmin user = true ∨
      r.hasReviewer user = true := by
  simp [ShownTo, GroupAuthorizer.isAdmin, User.inGroup, hasReviewer]

variable {r : AccessRequest} {a : String} {now : Instant}

theorem updatedAt_applyUpdates {updated : List Grant} {g : Grant} (hg : g ∈ r.grants)
    (h : (update? updated g).isSome = true) : (r.applyUpdates updated now).1.updatedAt = now := by
  have hcount : 0 < r.grants.countP fun g => (update? updated g).isSome :=
    List.countP_pos_iff.mpr ⟨g, hg, h⟩
  simp only [applyUpdates, if_pos hcount]

theorem active_expireElapsed : (r.expireElapsed now).1.grants.filter (·.isActive) =
    (r.grants.filter (·.Running now)).map (·.expireIfElapsed now) := by
  rw [grants_expireElapsed, List.filter_map]
  refine congrArg _ (List.filter_congr fun g _ => ?_)
  rw [Function.comp, Bool.eq_iff_iff, Grant.isActive_expireIfElapsed_iff, decide_eq_true_eq]

/-- Taking over the revoked copies of the running grants settles every grant. -/
theorem applyUpdates_running (hn : (r.grants.map (·.id)).Nodup) {g : Grant} (hg : g ∈ r.grants)
    (hrunning : g.Running now) :
    ((r.expireElapsed now).1.applyUpdates
      (((r.expireElapsed now).1.grants.filter (·.isActive)).map (·.revokedAs a)) now).1 =
      { r.mapGrants (·.settle a now) with updatedAt := now } := by
  have hmem : g.expireIfElapsed now ∈ (r.expireElapsed now).1.grants := by
    rw [grants_expireElapsed]
    exact List.mem_map_of_mem hg
  have hactive := Grant.isActive_expireIfElapsed_iff.mpr hrunning
  have hids : ((r.expireElapsed now).1.grants.map (·.id)).Nodup := by
    rw [grants_expireElapsed, List.map_map]
    simpa [Function.comp_def] using hn
  obtain ⟨t', hsettled⟩ := outcome_eq (t := now) (a := a) hn
  rw [LocalWorkflow.revoke_of_active hmem hactive, outcome] at hsettled
  have htime : t' = now := by
    refine (congrArg updatedAt hsettled).symm.trans (updatedAt_applyUpdates hmem ?_)
    rw [update?_revoked hids hmem, if_pos hactive]
    rfl
  rw [hsettled, htime]

end AccessRequest

/-! ## The operation -/

namespace Requests

open Service

variable {a : GroupAuthorizer} {allowed : Moment → Prop} {user : User} {id : String}
  {r : AccessRequest} {s : MemoryStore} {past : Past}

theorem visibleRequest_locally (a : GroupAuthorizer) (user : User) (id : String) :
    (visibleRequest user id).locally a = (do
      let r ← orNotFound ("request " ++ id) (← store (.getRequest id))
      if r.ShownTo a user then return r else throw (.notFound ("request " ++ id))) := by
  simp only [visibleRequest, locally_bind, locally_store, locally_orNotFound, locally_ite, locally_pure,
    locally_isAdmin, locally_isReviewer, locally_verdict, locally_throw, verdict_ok, pure_bind]
  refine congrArg _ (funext fun found => congrArg _ (funext fun r => ?_))
  have hshown : r.ShownTo a user ↔ r.requestedBy.id = user.id ∨ a.isAdmin user = true ∨
      r.hasReviewer user = true := r.shownTo_iff
  split
  · rename_i h
    rw [if_pos (hshown.mpr (.inl h))]
  split
  · rename_i h
    rw [if_pos (hshown.mpr (.inr (.inl h)))]
  split
  · rename_i h
    rw [if_pos (hshown.mpr (.inr (.inr h)))]
  · rename_i howner hadmin hreviewer
    rw [if_neg fun h => (hshown.mp h).elim howner fun h => h.elim hadmin hreviewer]

theorem visibleRequest_shown (hr : s.requests[id]? = some r) (h : r.ShownTo a user) :
    ((visibleRequest user id).locally a).Attains allowed
      (fun s' past' r' => s' = s ∧ told emitted? past' = told emitted? past ∧ r' = r)
      (fun _ _ _ => False) s past := by
  rw [visibleRequest_locally, attains_bind]
  refine attains_store (a := some r) (congrArg Except.ok hr) ?_
  rw [attains_bind, attains_orNotFound_some, if_pos h]
  exact ⟨rfl, rfl, rfl⟩

theorem visibleRequest_hidden (h : ∀ r, s.requests[id]? = some r → ¬ r.ShownTo a user) :
    ((visibleRequest user id).locally a).Attains allowed (fun _ _ _ => False)
      (fun s' past' e => s' = s ∧ told emitted? past' = told emitted? past ∧
        e = .notFound ("request " ++ id)) s past := by
  rw [visibleRequest_locally, attains_bind]
  refine attains_store (a := s.requests[id]?) rfl ?_
  cases hr : s.requests[id]? with
  | none => exact ⟨rfl, rfl, rfl⟩
  | some r =>
    rw [attains_bind, attains_orNotFound_some, if_neg (h r hr)]
    exact ⟨rfl, rfl, rfl⟩

/-- What follows the verdict of the workflow. -/
def follow (actor : User) (now : Instant) (r : AccessRequest) (expired : Bool) :
    Except WorkflowError (List Grant) → Service AccessRequest
  | .error e => do
    if expired then store (.putRequest r)
    throw (.ofWorkflow e)
  | .ok revoked => do
    let (r, _) := r.applyUpdates revoked now
    store (.putRequest r)
    count (.grantsRevoked revoked.length)
    emitRevoked r.id actor.id revoked
    return r

theorem emitRevoked_locally (requestId actorId : String) (grants : List Grant) :
    (emitRevoked requestId actorId grants).locally a = emitRevoked requestId actorId grants := by
  induction grants with
  | nil => rfl
  | cons grant rest ih => rw [emitRevoked, locally_bind, locally_emit, ih]

theorem revokeRequest_locally (a : GroupAuthorizer) (actor : User) (id : String) :
    (revokeRequest actor id).locally a = (do
      let r ← (visibleRequest actor id).locally a
      let now ← Service.now
      follow actor now (r.expireElapsed now).1 (r.expireElapsed now).2
        (LocalWorkflow.revoke (r.expireElapsed now).1 actor.id)) := by
  simp only [revokeRequest, locally_bind, locally_now, locally_revoke, pure_bind]
  refine congrArg _ (funext fun r => congrArg _ (funext fun now => ?_))
  cases LocalWorkflow.revoke (r.expireElapsed now).1 actor.id with
  | error e => simp only [follow, locally_bind, locally_ite, locally_store, locally_throw]
  | ok revoked =>
    simp only [follow, locally_bind, locally_store, locally_count, locally_pure, emitRevoked_locally]

/-- One event for each grant, in order. -/
theorem emitRevoked_attains (requestId actorId : String) (grants : List Grant) :
    (emitRevoked requestId actorId grants).Attains allowed
      (fun s' past' _ => s' = s ∧ told emitted? past' =
        (grants.map fun g => AccessEvent.grantRevoked requestId g.id actorId).reverse ++
          told emitted? past)
      (fun _ _ _ => False) s past := by
  induction grants generalizing past with
  | nil => exact ⟨rfl, rfl⟩
  | cons grant rest ih =>
    rw [emitRevoked, attains_bind]
    refine attains_emit fun reply => ih.mono (fun s' past' _ h => ⟨h.1, ?_⟩) fun _ _ _ => id
    rw [h.2]
    simp [emitted?]

theorem follow_error_attains (hr : s.requests[id]? = some r) (hid : r.id = id) (actor : User)
    (now : Instant) (e : WorkflowError) :
    (follow actor now (r.expireElapsed now).1 (r.expireElapsed now).2 (.error e)).Attains allowed
      (fun _ _ _ => False)
      (fun s' past' e' => s' = { s with requests := s.requests.insert id (current now r) } ∧
        told emitted? past' = told emitted? past ∧ e' = .ofWorkflow e) s past := by
  have hput : ∀ q : AccessRequest, q.id = id →
      (s.perform (.putRequest q)).2 = { s with requests := s.requests.insert id q } := by
    rintro q rfl
    rfl
  rw [follow]
  split
  · rw [attains_bind]
    refine attains_store rfl ?_
    rw [hput _ ((r.expireElapsed_sameAs now).1.trans hid)]
    exact ⟨rfl, rfl, rfl⟩
  · rename_i hkept
    have hcurrent : current now r = r := by
      rw [current, AccessRequest.expireElapsed, if_neg]
      intro helapsed
      exact hkept (by rw [AccessRequest.expireElapsed, if_pos helapsed])
    rw [hcurrent, MemoryStore.insert_of_getElem?_eq_some hr]
    exact ⟨rfl, rfl, rfl⟩

/-- The copies of the workflow are taken over, stored, and reported in their order. -/
theorem follow_ok_attains (actor : User) (now : Instant) (expired : Bool) (revoked : List Grant) :
    (follow actor now r expired (.ok revoked)).Attains allowed
      (fun s' past' r' => r' = (r.applyUpdates revoked now).1 ∧
        s' = { s with requests := s.requests.insert r'.id r' } ∧
        told emitted? past' = (revoked.map fun g =>
          AccessEvent.grantRevoked r'.id g.id actor.id).reverse ++ told emitted? past)
      (fun _ _ _ => False) s past := by
  simp only [follow, attains_bind]
  refine attains_store rfl (attains_count ?_)
  exact (emitRevoked_attains _ _ _).mono (fun s' past' _ h => ⟨rfl, h.1, h.2⟩) fun _ _ _ => id

/-- What follows the verdict has the outcome that the time gives, when no event was emitted before. -/
def SettlesFrom (a : GroupAuthorizer) (allowed : Moment → Prop) (actor : User) (id : String)
    (r : AccessRequest) (now : Instant) (s : MemoryStore) (past : Past) : Prop :=
  ∀ past₁, told emitted? past₁ = told emitted? past →
    (follow actor now (r.expireElapsed now).1 (r.expireElapsed now).2
      (LocalWorkflow.revoke (r.expireElapsed now).1 actor.id)).Attains allowed
      (fun s' past' r' => RevocationOutcome a actor id now ⟨s, past⟩ ⟨s', past'⟩ (.ok r'))
      (fun s' past' e => RevocationOutcome a actor id now ⟨s, past⟩ ⟨s', past'⟩ (.error e)) s past₁

section Shown

variable {now : Instant} (hr : s.requests[id]? = some r) (hid : r.id = id) (h : r.ShownTo a user)

include hr hid h

theorem settlesFrom_of_bare (hbare : r.grants = []) :
    SettlesFrom a allowed user id r now s past := by
  intro past₁ hpast
  have hstill : (r.expireElapsed now).1.grants = [] := by
    rw [AccessRequest.grants_expireElapsed, hbare, List.map_nil]
  have hcurrent : current now r = r := by
    rw [current, AccessRequest.expireElapsed, hbare]
    rfl
  rw [LocalWorkflow.revoke_of_bare hstill]
  refine (follow_error_attains hr hid user now .noGrant).mono (fun _ _ _ => False.elim)
    fun s' past' e he => ?_
  obtain ⟨hs, hkept, rfl⟩ := he
  rw [hcurrent, MemoryStore.insert_of_getElem?_eq_some hr] at hs
  exact .of_bare hr h hbare hs (hkept.trans hpast)

theorem settlesFrom_of_inactive (hne : r.grants ≠ []) (hnone : ∀ g ∈ r.grants, ¬ g.Running now) :
    SettlesFrom a allowed user id r now s past := by
  intro past₁ hpast
  have hstill : (r.expireElapsed now).1.grants ≠ [] := by
    rw [AccessRequest.grants_expireElapsed]
    simpa using hne
  have hinactive : ∀ g ∈ (r.expireElapsed now).1.grants, g.isActive = false := by
    rw [AccessRequest.grants_expireElapsed, List.forall_mem_map]
    exact fun g hg => Bool.eq_false_iff.mpr fun hactive =>
      hnone g hg (Grant.isActive_expireIfElapsed_iff.mp hactive)
  rw [LocalWorkflow.revoke_of_inactive hstill hinactive]
  refine (follow_error_attains hr hid user now .grantInactive).mono (fun _ _ _ => False.elim)
    fun s' past' e he => ?_
  obtain ⟨hs, hkept, rfl⟩ := he
  exact .of_inactive hr h hne hnone hs (hkept.trans hpast)

theorem settlesFrom_of_running {g : Grant} (hg : g ∈ r.grants) (hrunning : g.Running now) :
    SettlesFrom a allowed user id r now s past := by
  intro past₁ hpast
  have hmem : g.expireIfElapsed now ∈ (r.expireElapsed now).1.grants := by
    rw [AccessRequest.grants_expireElapsed]
    exact List.mem_map_of_mem hg
  rw [LocalWorkflow.revoke_of_active hmem (Grant.isActive_expireIfElapsed_iff.mpr hrunning)]
  refine (follow_ok_attains user now (r.expireElapsed now).2 _).mono (fun s' past' r' hend => ?_)
    fun _ _ _ => False.elim
  obtain ⟨hr', hs, htold⟩ := hend
  refine .of_revoked hr h hg hrunning fun hn => ?_
  rw [AccessRequest.applyUpdates_running hn hg hrunning] at hr'
  have hid' : r'.id = id := by
    rw [hr']
    exact hid
  rw [hid'] at hs htold
  refine ⟨hr', hs, ?_⟩
  rw [htold, hpast, AccessRequest.active_expireElapsed, List.map_map, List.map_map]
  refine congrArg (List.reverse · ++ _) (List.map_congr_left fun g' _ => ?_)
  simp

theorem settlesFrom : SettlesFrom a allowed user id r now s past := by
  by_cases hbare : r.grants = []
  · exact settlesFrom_of_bare hr hid h hbare
  by_cases hrunning : ∃ g ∈ r.grants, g.Running now
  · obtain ⟨g, hg, hrunning⟩ := hrunning
    exact settlesFrom_of_running hr hid h hg hrunning
  · exact settlesFrom_of_inactive hr hid h hbare fun g hg hg' => hrunning ⟨g, hg, hg'⟩

end Shown

/-- The revocation has its outcome, whether it returns or fails. -/
def Settles (a : GroupAuthorizer) (allowed : Moment → Prop) (actor : User) (id : String)
    (s : MemoryStore) (past : Past) : Prop :=
  ((revokeRequest actor id).locally a).EndsWith allowed
    (fun now s' past' => RevocationOutcome a actor id now ⟨s, past⟩ ⟨s', past'⟩) s past

theorem settles_of_shown (hr : s.requests[id]? = some r) (hid : r.id = id) (h : r.ShownTo a user) :
    Settles a allowed user id s past := by
  rw [Settles, EndsWith, revokeRequest_locally, attains_bind]
  refine (visibleRequest_shown hr h).mono (fun s₁ past₁ r₁ hfound => ?_) fun _ _ _ => False.elim
  obtain ⟨rfl, hpast, rfl⟩ := hfound
  rw [attains_bind]
  refine attains_now fun m hm => ?_
  refine (settlesFrom hr hid h _ ?_).mono (fun s' past' r' hend => ⟨m, hm, hend⟩)
    fun s' past' e hend => ⟨m, hm, hend⟩
  exact hpast

theorem settles_of_hidden {m : Moment} (hm : allowed m)
    (h : ∀ r, s.requests[id]? = some r → ¬ r.ShownTo a user) : Settles a allowed user id s past := by
  rw [Settles, EndsWith, revokeRequest_locally, attains_bind]
  refine (visibleRequest_hidden h).mono (fun _ _ _ => False.elim) fun s' past' e he => ⟨m, hm, ?_⟩
  obtain ⟨hs, hkept, rfl⟩ := he
  exact .of_hidden h hs hkept

/-- A revocation that nothing interferes with has one outcome, given by what is stored and by the time
that the clock shows once. -/
theorem revocation_outcome (a : GroupAuthorizer) (actor : User) (id : String) (pageSize : Nat)
    (calls : List StoreCall) (past : Past) (moments : Nat → Moment) :
    ∃ answer s', ((revokeRequest actor id).locally a).run.finish moments
        ⟨(MemoryStore.empty pageSize).run calls, past⟩ = (some answer, s') ∧
      ∃ n, RevocationOutcome a actor id (moments n).clock
        ⟨(MemoryStore.empty pageSize).run calls, past⟩ s' answer := by
  have hsettles : Settles a (fun m => ∃ n, m = moments n) actor id
      ((MemoryStore.empty pageSize).run calls) past := by
    by_cases hshown : ∃ r, ((MemoryStore.empty pageSize).run calls).requests[id]? = some r ∧
        r.ShownTo a actor
    · obtain ⟨r, hr, h⟩ := hshown
      exact settles_of_shown hr ((MemoryStore.run_filed pageSize calls).requests id r hr) h
    · exact settles_of_hidden ⟨0, rfl⟩ fun r hr h => hshown ⟨r, hr, h⟩
  exact EndsWith.finish (s := ⟨(MemoryStore.empty pageSize).run calls, past⟩) hsettles

end Requests

end AccessGrants
