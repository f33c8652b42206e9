import AccessGrants.Proofs.Alone.Withdrawal
import AccessGrants.Proofs.Requests.Expiry

/-!
# AccessGrants.Proofs.Requests.LazyExpiry

Elapsed grants are shown as expired by every reading, and are stored so only when a revocation is
refused. No one can tell whether that has happened.

* `MemoryStore.SameAt`      — stores that look the same from a time on.
* `Reading`                 — the three ways to look at requests.
* `Reading.program_attains` — what a reading answers, from what is stored and the time.
* `revokeRequest_attains`   — what a revocation does, from what is stored and the time.
* `rejection_sameAt`        — a revocation that fails leaves a store that looks the same.
* `expiry_unobservable`     — readings and later revocations go the same way over both stores.
-/

namespace AccessGrants

open Exchange (emitted?)

/-! ## Stores that look the same -/

namespace MemoryStore

/-- The stores differ in requests only, and by the time the same can be seen of these, but for the times
of their last updates. -/
structure SameAt (now : Instant) (s s' : MemoryStore) : Prop where
  rest : s' = { s with requests := s'.requests }
  requests : ∀ id : String,
    s.requests[id]?.map (·.seenAt now) = s'.requests[id]?.map (·.seenAt now)

namespace SameAt

variable {now : Instant} {s s' : MemoryStore}

theorem refl (now : Instant) (s : MemoryStore) : SameAt now s s := ⟨rfl, fun _ => rfl⟩

theorem pageSize (h : SameAt now s s') : s'.pageSize = s.pageSize := by
  rw [h.rest]

theorem exists_request (h : SameAt now s s') {id : String} {r : AccessRequest}
    (hr : s.requests[id]? = some r) :
    ∃ r', s'.requests[id]? = some r' ∧ r.seenAt now = r'.seenAt now := by
  have hsame := h.requests id
  rw [hr, Option.map_some] at hsame
  obtain ⟨r', hr', heq⟩ := Option.map_eq_some_iff.mp hsame.symm
  exact ⟨r', hr', heq.symm⟩

theorem symm (h : SameAt now s s') : SameAt now s' s where
  rest := by rw [h.rest]
  requests id := (h.requests id).symm

theorem insert (h : SameAt now s s') {r r' : AccessRequest} (hr : r.seenAt now = r'.seenAt now)
    (id : String) : SameAt now { s with requests := s.requests.insert id r }
      { s' with requests := s'.requests.insert id r' } where
  rest := by rw [h.rest]
  requests k := by
    rw [getElem?_insert_row, getElem?_insert_row]
    split
    · exact congrArg some hr
    · exact h.requests k

theorem values (h : SameAt now s s') :
    s.requests.values.map (·.seenAt now) = s'.requests.values.map (·.seenAt now) :=
  values_map_congr h.requests

end SameAt

end MemoryStore

/-! ## Pages -/

theorem paginate_map (f : α → β) (items : List α) (offset size : Nat) :
    (paginate items offset size).map f = paginate (items.map f) offset size := by
  simp [paginate, Page.map, List.map_take, List.map_drop]

namespace MemoryStore

/-- A page of what is seen of some rows, when their order goes by what is seen of them. -/
theorem pageOf_map (s : MemoryStore) {f : α → β} {order : α → α → Bool} {order' : β → β → Bool}
    (horder : ∀ a b, order a b = order' (f a) (f b)) (rows : List α) (page : Option String) :
    (s.pageOf rows order page).map (Page.map f) = s.pageOf (rows.map f) order' page := by
  rw [pageOf, pageOf]
  cases PageToken.decode page with
  | error e => rfl
  | ok offset =>
    show Except.ok (Page.map f (paginate (rows.mergeSort order) offset s.pageSize)) =
      Except.ok (paginate ((rows.map f).mergeSort order') offset s.pageSize)
    rw [paginate_map, List.map_mergeSort fun a _ b _ => horder a b]

end MemoryStore

namespace AccessRequest

variable {now : Instant}

theorem shownTo_congr {r r' : AccessRequest} (h : r.seenAt now = r'.seenAt now) (a : GroupAuthorizer)
    (user : User) : r.ShownTo a user ↔ r'.ShownTo a user := by
  rw [ShownTo, ShownTo, requestedBy_of_seenAt h, reviewers_of_seenAt h]

theorem newestFirst_seenAt (a b : AccessRequest) :
    newestFirst a b = newestFirst (a.seenAt now) (b.seenAt now) := by
  simp [newestFirst, seenAt_eq, undated, mapGrants]

end AccessRequest

namespace MemoryStore.SameAt

variable {now : Instant} {s s' : MemoryStore}

theorem listRequests (h : SameAt now s s') (page : Option String) :
    (s.listRequests page).map (Page.map (·.seenAt now)) =
      (s'.listRequests page).map (Page.map (·.seenAt now)) := by
  rw [MemoryStore.listRequests, MemoryStore.listRequests,
    pageOf_map s AccessRequest.newestFirst_seenAt, pageOf_map s' AccessRequest.newestFirst_seenAt,
    h.values, pageOf, pageOf, h.pageSize]

theorem listRequestsFor (h : SameAt now s s') (userId : String) (page : Option String) :
    (s.listRequestsFor userId page).map (Page.map (·.seenAt now)) =
      (s'.listRequestsFor userId page).map (Page.map (·.seenAt now)) := by
  have howner : ∀ rows : List AccessRequest,
      (rows.filter fun r => r.requestedBy.id = userId).map (·.seenAt now) =
        (rows.map (·.seenAt now)).filter fun r => r.requestedBy.id = userId := by
    intro rows
    rw [List.filter_map]
    refine congrArg _ (List.filter_congr fun r _ => ?_)
    simp [AccessRequest.seenAt_eq, AccessRequest.undated, AccessRequest.mapGrants]
  rw [MemoryStore.listRequestsFor, MemoryStore.listRequestsFor,
    pageOf_map s AccessRequest.newestFirst_seenAt, pageOf_map s' AccessRequest.newestFirst_seenAt,
    howner, howner, h.values, pageOf, pageOf, h.pageSize]

end MemoryStore.SameAt

/-! ## Readings -/

/-- The three ways to look at requests. -/
inductive Reading where
  | request (user : User) (id : String)
  | requestsFor (user : User) (page : Option String)
  | requests (page : Option String)

namespace Call

/-- Calls that look at the store or at the clock. -/
def isLook : Call → Bool
  | resource (.store c) => c.isReading
  | resource .now => true
  | _ => false

end Call

namespace Reading

open Requests Service

abbrev Result : Reading → Type
  | request _ _ => AccessRequest
  | requestsFor _ _ | requests _ => Page AccessRequest

def program : (q : Reading) → Service q.Result
  | request user id => getRequestFor user id
  | requestsFor user page => listRequestsFor user page
  | requests page => listRequests page

/-- The requests that are shown. -/
def shown : (q : Reading) → q.Result → List AccessRequest
  | request _ _, r => [r]
  | requestsFor _ _, page | requests _, page => page.items

/-- What is shown but for the times of the last updates. -/
def undated : (q : Reading) → q.Result → q.Result
  | request _ _, r => r.undated
  | requestsFor _ _, page | requests _, page => page.map (·.undated)

/-- What is read of the store. -/
def found (a : GroupAuthorizer) (s : MemoryStore) : (q : Reading) → Except ServiceError q.Result
  | request user id =>
    match s.requests[id]?.filter fun r => r.ShownTo a user with
    | some r => .ok r
    | none => .error (.notFound ("request " ++ id))
  | requestsFor user page => (s.listRequestsFor user.id page).mapError .store
  | requests page => (s.listRequests page).mapError .store

/-- What is read, with the status that its grants have at a time. -/
def brought (now : Instant) : (q : Reading) → q.Result → q.Result
  | request _ _, r => current now r
  | requestsFor _ _, page | requests _, page => page.map (current now)

theorem shown_brought (q : Reading) (now : Instant) (x : q.Result) :
    q.shown (q.brought now x) = (q.shown x).map (current now) := by
  cases q <;> rfl

section Program

variable {a : GroupAuthorizer} {now : Instant} {s s' : MemoryStore} {past : Past}

theorem program_attains (q : Reading) :
    (q.program.locally a).Attains (fun m => m.clock = now)
      (fun s' _ x => s' = s ∧ (q.found a s).map (q.brought now) = .ok x)
      (fun s' _ e => s' = s ∧ (q.found a s).map (q.brought now) = .error e) s past := by
  cases q with
  | request user id =>
    simp only [program, getRequestFor, locally_bind, locally_now, locally_pure, attains_bind]
    cases hfound : s.requests[id]?.filter fun r => r.ShownTo a user with
    | none =>
      have hhidden : ∀ r, s.requests[id]? = some r → ¬ r.ShownTo a user := by
        simpa [Option.filter_eq_none_iff] using hfound
      refine (visibleRequest_hidden hhidden).mono (fun _ _ _ => False.elim) fun s' past' e he => ?_
      obtain ⟨rfl, -, rfl⟩ := he
      refine ⟨rfl, ?_⟩
      rw [found, hfound]
      rfl
    | some r =>
      obtain ⟨hr, hshown⟩ := Option.filter_eq_some_iff.mp hfound
      refine (visibleRequest_shown hr (of_decide_eq_true hshown)).mono (fun s' past' r' hend => ?_)
        fun _ _ _ => False.elim
      obtain ⟨rfl, -, rfl⟩ := hend
      refine attains_now fun m hm => ⟨rfl, ?_⟩
      rw [found, hfound, hm]
      rfl
  | requestsFor user page =>
    simp only [program, listRequestsFor, locally_bind, locally_now, locally_store, locally_pure,
      attains_bind]
    refine attains_store_cases (fun x hx => attains_now fun m hm => ⟨rfl, ?_⟩) fun e he => ⟨rfl, ?_⟩
    · rw [found, hm, show s.listRequestsFor user.id page = .ok x from hx]
      rfl
    · rw [found, show s.listRequestsFor user.id page = .error e from he]
      rfl
  | requests page =>
    simp only [program, listRequests, locally_bind, locally_now, locally_store, locally_pure,
      attains_bind]
    refine attains_store_cases (fun x hx => attains_now fun m hm => ⟨rfl, ?_⟩) fun e he => ⟨rfl, ?_⟩
    · rw [found, hm, show s.listRequests page = .ok x from hx]
      rfl
    · rw [found, show s.listRequests page = .error e from he]
      rfl

theorem program_within (q : Reading) : (q.program.locally a).Within Call.isLook := by
  cases q with
  | request user id =>
    simp only [program, getRequestFor, locally_bind, locally_now, locally_pure, visibleRequest_locally]
    refine Within.bind ?_ fun r => (within_ask rfl).bind fun now => within_pure _
    refine (within_store rfl).bind fun found => (within_orNotFound _ found).bind fun r => ?_
    split
    · exact within_pure r
    · exact within_throw _
  | requestsFor user page =>
    simp only [program, listRequestsFor, locally_bind, locally_now, locally_store, locally_pure]
    exact (within_store rfl).bind fun found => (within_ask rfl).bind fun now => within_pure _
  | requests page =>
    simp only [program, listRequests, locally_bind, locally_now, locally_store, locally_pure]
    exact (within_store rfl).bind fun found => (within_ask rfl).bind fun now => within_pure _

theorem lt_stop_of_found {q : Reading} {x : q.Result}
    (hx : (q.found a s).map (q.brought now) = .ok x) {r : AccessRequest} (hr : r ∈ q.shown x) {g : Grant}
    (hg : g ∈ r.grants) (hactive : g.status = .active) : now < g.stop := by
  cases hfound : q.found a s with
  | error e =>
    rw [hfound] at hx
    cases hx
  | ok y =>
    rw [hfound] at hx
    cases hx
    rw [shown_brought] at hr
    obtain ⟨r, -, rfl⟩ := List.mem_map.mp hr
    exact AccessRequest.lt_stop_of_mem_expireElapsed hg hactive

theorem found_alike (h : MemoryStore.SameAt now s s') (q : Reading) :
    ((q.found a s).map (q.brought now)).map q.undated =
      ((q.found a s').map (q.brought now)).map q.undated := by
  have hpage : ∀ x : Except StoreError (Page AccessRequest),
      ((x.mapError ServiceError.store).map (Page.map (current now))).map (Page.map (·.undated)) =
        (x.map (Page.map (·.seenAt now))).mapError .store := by
    intro x
    cases x with
    | error e => rfl
    | ok page =>
      refine congrArg Except.ok ?_
      simp [Page.map, current, AccessRequest.seenAt]
  cases q with
  | request user id =>
    cases hr : s.requests[id]? with
    | none =>
      have hr' := h.requests id
      rw [hr, Option.map_none, eq_comm, Option.map_eq_none_iff] at hr'
      simp only [found, hr, hr', Option.filter_none]
    | some r =>
      obtain ⟨r', hr', hseen⟩ := h.exists_request hr
      have hshown := AccessRequest.shownTo_congr hseen a user
      by_cases hto : r.ShownTo a user
      · simp only [found, hr, hr', Option.filter_some, hto, hshown.mp hto, decide_true, if_true]
        exact congrArg Except.ok hseen
      · simp only [found, hr, hr', Option.filter_some, hto, mt hshown.mpr hto, decide_false,
          Bool.false_eq_true, if_false]
  | requestsFor user page =>
    exact (hpage _).trans ((congrArg _ (h.listRequestsFor user.id page)).trans (hpage _).symm)
  | requests page => exact (hpage _).trans ((congrArg _ (h.listRequests page)).trans (hpage _).symm)

end Program

/-- The run of a reading, with the collaborators that need nothing but the resources. -/
def answered (q : Reading) (a : GroupAuthorizer) (moments : Nat → Moment) (s : Session) :
    Option (Except ServiceError q.Result) × Session :=
  (q.program.locally a).run.finish moments s

/-- The reading comes to its end. It has only looked at the store and the clock, and shows no grant as
active whose end has come. -/
structure Current (q : Reading) (a : GroupAuthorizer) (moments : Nat → Moment) (now : Instant)
    (s : Session) : Prop where
  answers : ∃ answer, (q.answered a moments s).1 = some answer ∧ ∀ x, answer = .ok x →
    ∀ r ∈ q.shown x, ∀ g ∈ r.grants, g.status = .active → now < g.stop
  looks : ∃ new, (q.answered a moments s).2 = ⟨s.store, new ++ s.past⟩ ∧
    ∀ e ∈ new, e.call.isLook = true

section Run

variable {a : GroupAuthorizer} {now : Instant} {moments : Nat → Moment}
  (hnow : ∀ n, (moments n).clock = now)

include hnow

theorem answered_eq (q : Reading) (s : Session) :
    (q.answered a moments s).1 = some ((q.found a s.store).map (q.brought now)) ∧
      (q.answered a moments s).2.store = s.store := by
  obtain ⟨answer, s', hrun, hstore, hanswer⟩ := Attains.finish (s := s)
    (fun s' _ answer => s' = s.store ∧ (q.found a s.store).map (q.brought now) = answer)
    q.program_attains hnow
  rw [answered, hrun, hanswer]
  exact ⟨rfl, hstore⟩

theorem current (q : Reading) (s : Session) : q.Current a moments now s where
  answers := ⟨_, (q.answered_eq hnow s).1, fun _ hx _ hr _ hg hactive =>
    lt_stop_of_found hx hr hg hactive⟩
  looks := by
    obtain ⟨new, hpast, hlook⟩ := Interaction.finish_past moments s (q.program_within (a := a) [])
    refine ⟨new, ?_, hlook⟩
    rw [← (q.answered_eq (a := a) hnow s).2, ← hpast]
    rfl

end Run

end Reading

/-! ## Revocations -/

/-- What a revocation comes to: its answer, what it writes, and what it reports, last event first. -/
structure RevocationEffect where
  answer : Except ServiceError AccessRequest
  written : AccessRequest
  events : List AccessEvent

namespace Requests

open Service

/-- What a revocation comes to for a request that is shown to the actor. -/
def revocationEffect (actor : User) (now : Instant) (r : AccessRequest) : RevocationEffect :=
  match LocalWorkflow.revoke (current now r) actor.id with
  | .error e => ⟨.error (.ofWorkflow e), current now r, []⟩
  | .ok revoked =>
    let r' := ((current now r).applyUpdates revoked now).1
    ⟨.ok r', r', (revoked.map fun g => .grantRevoked r'.id g.id actor.id).reverse⟩

section

variable {a : GroupAuthorizer} {actor : User} {id : String} {now : Instant} {r r' : AccessRequest}
  {s : MemoryStore} {past : Past}

theorem revocationEffect_of_refusal {e : WorkflowError}
    (hv : LocalWorkflow.revoke (r.expireElapsed now).1 actor.id = .error e) :
    revocationEffect actor now r = ⟨.error (.ofWorkflow e), current now r, []⟩ := by
  rw [revocationEffect, current, hv]

theorem revocationEffect_of_copies {revoked : List Grant}
    (hv : LocalWorkflow.revoke (r.expireElapsed now).1 actor.id = .ok revoked)
    (hr' : r' = ((r.expireElapsed now).1.applyUpdates revoked now).1) :
    revocationEffect actor now r =
      ⟨.ok r', r', (revoked.map fun g => .grantRevoked r'.id g.id actor.id).reverse⟩ := by
  rw [revocationEffect, current, hv, hr']

theorem revokeRequest_attains (hr : s.requests[id]? = some r) (hid : r.id = id)
    (h : r.ShownTo a actor) :
    ((revokeRequest actor id).locally a).Attains (fun m => m.clock = now)
      (fun s' past' x => (revocationEffect actor now r).answer = .ok x ∧
        s' = { s with requests := s.requests.insert id (revocationEffect actor now r).written } ∧
        told emitted? past' = (revocationEffect actor now r).events ++ told emitted? past)
      (fun s' past' e => (revocationEffect actor now r).answer = .error e ∧
        s' = { s with requests := s.requests.insert id (revocationEffect actor now r).written } ∧
        told emitted? past' = (revocationEffect actor now r).events ++ told emitted? past) s past := by
  rw [revokeRequest_locally, attains_bind]
  refine (visibleRequest_shown hr h).mono (fun s₁ past₁ r₁ hfound => ?_) fun _ _ _ => False.elim
  obtain ⟨rfl, hpast, rfl⟩ := hfound
  rw [attains_bind]
  refine attains_now fun m hm => ?_
  rw [hm]
  cases hv : LocalWorkflow.revoke (r₁.expireElapsed now).1 actor.id with
  | error e =>
    rw [revocationEffect_of_refusal hv]
    refine (follow_error_attains hr hid actor now e).mono (fun _ _ _ => False.elim)
      fun s' past' e' he => ?_
    obtain ⟨hs, hkept, rfl⟩ := he
    exact ⟨rfl, hs, hkept.trans hpast⟩
  | ok revoked =>
    refine (follow_ok_attains actor now (r₁.expireElapsed now).2 revoked).mono
      (fun s' past' r' hend => ?_) fun _ _ _ => False.elim
    obtain ⟨hr', hs, htold⟩ := hend
    have hkept : r'.id = id := by
      rw [hr']
      exact ((r₁.expireElapsed now).1.applyUpdates_sameAs revoked now).1.trans
        ((r₁.expireElapsed_sameAs now).1.trans hid)
    rw [revocationEffect_of_copies hv hr']
    rw [hkept] at hs
    exact ⟨rfl, hs, htold.trans (congrArg _ hpast)⟩

theorem revocationEffect_congr (h : r.seenAt now = r'.seenAt now) (actor : User) :
    (revocationEffect actor now r).answer = (revocationEffect actor now r').answer ∧
      (revocationEffect actor now r).events = (revocationEffect actor now r').events ∧
      (revocationEffect actor now r).written.seenAt now =
        (revocationEffect actor now r').written.seenAt now := by
  have hverdict := LocalWorkflow.revoke_congr h actor.id
  cases hv : LocalWorkflow.revoke (r.expireElapsed now).1 actor.id with
  | error e =>
    rw [revocationEffect_of_refusal hv, revocationEffect_of_refusal (hverdict.symm.trans hv)]
    refine ⟨rfl, rfl, ?_⟩
    exact r.seenAt_self.trans (h.trans r'.seenAt_self.symm)
  | ok revoked =>
    -- something is revoked, so both requests count as updated now
    obtain ⟨g, hg, hactive⟩ := LocalWorkflow.exists_active_of_revoke hv
    have hcopies := Except.ok.inj ((LocalWorkflow.revoke_of_active hg hactive).symm.trans hv)
    have hsame := AccessRequest.applyUpdates_congr now h hg
      (AccessRequest.update?_of_active (a := actor.id) hg hactive)
    rw [hcopies] at hsame
    rw [revocationEffect_of_copies hv hsame.symm, revocationEffect_of_copies (hverdict.symm.trans hv) rfl]
    exact ⟨rfl, rfl, rfl⟩

end

/-! ## A revocation that was refused before -/

section Rejected

variable {pageSize : Nat} {calls : List StoreCall} {past : Past} {actor : User} {id : String}
  {earlier : Nat → Moment} {e : ServiceError} {s₁ : Session} {now : Instant}

/-- A revocation that fails may have expired what had elapsed by then, which cannot be seen later. -/
theorem rejection_sameAt
    (hrun : (revokeRequest actor id).run.finish earlier
      ⟨(MemoryStore.empty pageSize).run calls, past⟩ = (some (.error e), s₁))
    (hbefore : ∀ n, (earlier n).clock ≤ now) :
    MemoryStore.SameAt now ((MemoryStore.empty pageSize).run calls) s₁.store := by
  generalize hs : (MemoryStore.empty pageSize).run calls = s at hrun
  have hkeyed : ∀ r, s.requests[id]? = some r → r.id = id := by
    subst hs
    exact fun r => MemoryStore.requests_keyed pageSize calls
  have hsplit := Interaction.finish_append earlier s [] past (revokeRequest actor id).run
  rw [List.nil_append, hrun] at hsplit
  obtain ⟨hanswer, hend⟩ := Prod.mk.inj hsplit
  have hstore := congrArg Session.store hend
  generalize hfrom : (revokeRequest actor id).run.finish earlier ⟨s, []⟩ = run at hanswer hstore
  obtain ⟨answer, v⟩ := run
  obtain rfl : some (Except.error e) = answer := hanswer
  obtain ⟨-, -, hkept | ⟨-, r, t, hr, ht, hexpired⟩⟩ :=
    Interaction.finish_ensures (revokeRequest_ensures actor id hkeyed avoids_nil) hfrom
  · rw [hstore, hkept.1]
    exact .refl now s
  · have hclock := Interaction.finish_clock (t := t) earlier ⟨s, []⟩ (revokeRequest actor id).run
    rw [hfrom] at hclock
    rcases hclock ht with hnever | ⟨n, rfl⟩
    · cases hnever
    have hsame := (MemoryStore.SameAt.refl now s).insert
      (AccessRequest.seenAt_expireElapsed (hbefore n) r).symm id
    rw [MemoryStore.insert_of_getElem?_eq_some hr] at hsame
    rw [hstore, hexpired]
    split
    · exact hsame
    · exact .refl now s

end Rejected

/-- The run of a revocation, with the collaborators that need nothing but the resources. -/
def revoked (a : GroupAuthorizer) (actor : User) (id : String) (moments : Nat → Moment) (s : Session) :
    Option (Except ServiceError AccessRequest) × Session :=
  ((revokeRequest actor id).locally a).run.finish moments s

/-- Two runs that started from different sessions answer the same and report the same events, and what
they leave looks the same. -/
structure Alike (now : Instant) (s s₁ : Session) (run run₁ : Option (Except ServiceError α) × Session) :
    Prop where
  answers : ∃ answer, run.1 = some answer ∧ run₁.1 = some answer
  events : ∃ new, told emitted? run.2.past = new ++ told emitted? s.past ∧
    told emitted? run₁.2.past = new ++ told emitted? s₁.past
  stores : MemoryStore.SameAt now run.2.store run₁.2.store

section Later

variable {a : GroupAuthorizer} {actor : User} {id : String} {now : Instant} {moments : Nat → Moment}
  (hnow : ∀ n, (moments n).clock = now) {s s₁ : Session} {r : AccessRequest}

include hnow

theorem revoked_of_shown (hr : s.store.requests[id]? = some r) (hid : r.id = id)
    (h : r.ShownTo a actor) :
    ∃ past, revoked a actor id moments s = (some (revocationEffect actor now r).answer,
      ⟨{ s.store with
        requests := s.store.requests.insert id (revocationEffect actor now r).written }, past⟩) ∧
      told emitted? past = (revocationEffect actor now r).events ++ told emitted? s.past := by
  obtain ⟨answer, ⟨store, past⟩, hrun, hanswer, rfl, htold⟩ := Attains.finish (s := s)
    (fun s' past' answer => (revocationEffect actor now r).answer = answer ∧
      s' = { s.store with
        requests := s.store.requests.insert id (revocationEffect actor now r).written } ∧
      told emitted? past' = (revocationEffect actor now r).events ++ told emitted? s.past)
    (revokeRequest_attains hr hid h) hnow
  exact ⟨past, by rw [revoked, hrun, hanswer], htold⟩

theorem revoked_of_hidden (h : ∀ r, s.store.requests[id]? = some r → ¬ r.ShownTo a actor) :
    ∃ past, revoked a actor id moments s = (some (.error (.notFound ("request " ++ id))),
      ⟨s.store, past⟩) ∧ told emitted? past = told emitted? s.past := by
  have hattains : ((revokeRequest actor id).locally a).Attains (fun m => m.clock = now)
      (fun _ _ _ => False) (fun s' past' e => s' = s.store ∧ told emitted? past' = told emitted? s.past ∧
        e = .notFound ("request " ++ id)) s.store s.past := by
    rw [revokeRequest_locally, attains_bind]
    exact (visibleRequest_hidden h).mono (fun _ _ _ => False.elim) fun _ _ _ h => h
  obtain ⟨answer, ⟨store, past⟩, hrun, rfl, htold, rfl⟩ := Attains.finish (s := s)
    (fun s' past' answer => s' = s.store ∧ told emitted? past' = told emitted? s.past ∧
      answer = .error (.notFound ("request " ++ id)))
    (hattains.mono (fun _ _ _ => False.elim) fun _ _ _ ⟨hs, ht, he⟩ => ⟨hs, ht, congrArg _ he⟩) hnow
  exact ⟨past, hrun, htold⟩

theorem revoked_alike (hsame : MemoryStore.SameAt now s.store s₁.store)
    (hkeyed : ∀ r, s.store.requests[id]? = some r → r.id = id) :
    Alike now s s₁ (revoked a actor id moments s) (revoked a actor id moments s₁) := by
  by_cases hshown : ∃ r, s.store.requests[id]? = some r ∧ r.ShownTo a actor
  · obtain ⟨r, hr, h⟩ := hshown
    obtain ⟨r₁, hr₁, hseen⟩ := hsame.exists_request hr
    have hid := hkeyed r hr
    obtain ⟨past, hrun, htold⟩ := revoked_of_shown hnow hr hid h
    have hid₁ : r₁.id = id := (AccessRequest.id_of_seenAt hseen).symm.trans hid
    have h₁ : r₁.ShownTo a actor := (AccessRequest.shownTo_congr hseen a actor).mp h
    obtain ⟨past₁, hrun₁, htold₁⟩ := revoked_of_shown hnow hr₁ hid₁ h₁
    obtain ⟨hanswer, hevents, hwritten⟩ := revocationEffect_congr hseen actor
    rw [hrun, hrun₁]
    exact ⟨⟨_, rfl, congrArg some hanswer.symm⟩, ⟨_, htold, by rw [htold₁, hevents]⟩,
      hsame.insert hwritten id⟩
  · have hhidden : ∀ r, s.store.requests[id]? = some r → ¬ r.ShownTo a actor :=
      fun r hr h => hshown ⟨r, hr, h⟩
    have hhidden₁ : ∀ r, s₁.store.requests[id]? = some r → ¬ r.ShownTo a actor := by
      intro r₁ hr₁ h
      obtain ⟨r, hr, hseen⟩ := hsame.symm.exists_request hr₁
      exact hhidden r hr ((AccessRequest.shownTo_congr hseen a actor).mp h)
    obtain ⟨past, hrun, htold⟩ := revoked_of_hidden hnow hhidden
    obtain ⟨past₁, hrun₁, htold₁⟩ := revoked_of_hidden hnow hhidden₁
    rw [hrun, hrun₁]
    exact ⟨⟨_, rfl, rfl⟩, ⟨[], htold, htold₁⟩, hsame⟩

end Later

/-- Expiring grants at one time and again later comes to expiring them later, but for the time of the
update. At any time exactly the active grants whose end has come expire, and without any the request
stays as it is. So readings need not write: they show no grant as active that is over, and whether a
revocation that was refused has stored the expiry before makes no difference to what they show, nor to
what a later revocation answers and revokes. -/
theorem expiry_unobservable :
    (∀ (r : AccessRequest) (t₁ t₂ : Instant), t₁ ≤ t₂ →
      ((r.expireElapsed t₁).1.expireElapsed t₂).1.undated = (r.expireElapsed t₂).1.undated) ∧
    (∀ (r : AccessRequest) (t : Instant),
      ((r.expireElapsed t).2 = true ↔ ∃ g ∈ r.grants, g.Over t) ∧
      (r.expireElapsed t).1 =
        if ∃ g ∈ r.grants, g.Over t then
          { r.mapGrants (fun g => if g.Over t then { g with status := .expired } else g) with
            updatedAt := t }
        else r) ∧
    ∀ (a : GroupAuthorizer) (now : Instant) (moments : Nat → Moment),
      (∀ n, (moments n).clock = now) →
      (∀ (q : Reading) (s : Session), q.Current a moments now s) ∧
      ∀ (pageSize : Nat) (calls : List StoreCall) (past : Past) (actor : User) (id : String)
        (earlier : Nat → Moment) (e : ServiceError) (s₁ : Session),
        let s : Session := ⟨(MemoryStore.empty pageSize).run calls, past⟩
        (revokeRequest actor id).run.finish earlier s = (some (.error e), s₁) →
        (∀ n, (earlier n).clock ≤ now) →
        (∀ q : Reading, (q.answered a moments s).1.map (Except.map q.undated) =
          (q.answered a moments s₁).1.map (Except.map q.undated)) ∧
        ∀ (actor' : User) (id' : String),
          Alike now s s₁ (revoked a actor' id' moments s) (revoked a actor' id' moments s₁) := by
  refine ⟨fun r t₁ t₂ h => AccessRequest.seenAt_expireElapsed h r,
    fun r t => ⟨AccessRequest.expireElapsed_flag, r.expireElapsed_over t⟩,
    fun a now moments hnow => ⟨fun q s => q.current hnow s, ?_⟩⟩
  intro pageSize calls past actor id earlier e s₁ s hrun hbefore
  have hsame := rejection_sameAt hrun hbefore
  refine ⟨fun q => ?_, fun actor' id' => revoked_alike hnow hsame fun r =>
    MemoryStore.requests_keyed pageSize calls⟩
  rw [(q.answered_eq hnow s).1, (q.answered_eq hnow s₁).1]
  exact congrArg some (Reading.found_alike hsame q)

namespace Overdue

/-! Two grants run out while the workflow is down, one before a revocation is tried and one after. -/

def alice : User := ⟨"alice", "alice@example.org", ∅⟩

def grant (id : String) (status : GrantStatus) (stop : Int) : Grant :=
  ⟨id, "g", "t", "tg", ∅, "rule", "alice", "alice@example.org", status, ⟨0, 0⟩, ⟨stop, 0⟩, none⟩

def request : AccessRequest :=
  ⟨"r", "p", alice.requester, none,
    [⟨"g", "r", "rule", [], 3600, [grant "a" .active 40, grant "b" .revoked 40, grant "c" .active 60]⟩,
      ⟨"h", "r", "rule", [], 3600, [grant "d" .active 100]⟩], ∅, ⟨0, 0⟩, ⟨0, 0⟩⟩

def start : Session := ⟨(MemoryStore.empty 10).run [.putRequest request], []⟩

def down : Moment :=
  ⟨{ Surroundings.plain with revoke := fun _ _ _ => some (.error (.failed "down")) }, ⟨50, 0⟩⟩

def attempt : Option (Except ServiceError AccessRequest) × Session :=
  (revokeRequest alice "r").run.finish (fun _ => down) start

def later : Nat → Moment := fun _ => ⟨.plain, ⟨60, 0⟩⟩

/-- The attempt fails and has stored that a grant has expired. When the other one has ended, the request
is shown and revoked as if nothing had been stored. -/
theorem attempt_unobservable : attempt.1.map (·.toOption.isNone) = some true ∧
    attempt.2.store ≠ start.store ∧
    ((Reading.request alice "r").answered ⟨"staff"⟩ later start).1.map (Except.map (·.undated)) =
      ((Reading.request alice "r").answered ⟨"staff"⟩ later attempt.2).1.map
        (Except.map (·.undated)) ∧
    (revoked ⟨"staff"⟩ alice "r" later start).1 = (revoked ⟨"staff"⟩ alice "r" later attempt.2).1 ∧
    ((request.expireElapsed ⟨50, 0⟩).1.expireElapsed ⟨60, 0⟩).1.undated =
      (request.expireElapsed ⟨60, 0⟩).1.undated := by
  have hfails : attempt.1.map (·.toOption.isNone) = some true := by decide +kernel
  have hwrites : attempt.2.store ≠ start.store := by decide +kernel
  generalize hrun : attempt = run at hfails hwrites
  obtain ⟨answer, s₁⟩ := run
  obtain ⟨x, rfl, hx⟩ := Option.map_eq_some_iff.mp hfails
  cases x with
  | ok r => cases hx
  | error e =>
    obtain ⟨hread, hrevoke⟩ := (expiry_unobservable.2.2 ⟨"staff"⟩ ⟨60, 0⟩ later fun _ => rfl).2 10
      [.putRequest request] [] alice "r" (fun _ => down) e s₁ hrun fun _ => .inl (by decide)
    obtain ⟨answer, hanswer, hanswer₁⟩ := (hrevoke alice "r").answers
    exact ⟨hfails, hwrites, hread (.request alice "r"), hanswer.trans hanswer₁.symm,
      expiry_unobservable.1 request ⟨50, 0⟩ ⟨60, 0⟩ (.inl (by decide))⟩

end Overdue

end Requests

end AccessGrants
