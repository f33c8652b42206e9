import AccessGrants.Proofs.Alone.InStep
import AccessGrants.Proofs.Concurrency.Operations
import AccessGrants.Proofs.Requests.Settlement
import AccessGrants.Proofs.Store.Rows

/-!
# AccessGrants.Proofs.Alone.Secrecy

What is hidden from a user makes no difference to anything that the user asks for.

* `HiddenFrom`        — requests that a user may not see, and preflights that a user may not use.
* `SameFor`           — two stores that differ in hidden records only.
* `KeepsHidden`       — no hidden record was changed.
* `Beside`            — how two stores stand after the same operation was run over both.
* `Operation.IsOf`    — the operations of a user on preflights and requests.
* `hidden_unobservable` — each of them returns the same over both stores.
-/

namespace AccessGrants

/-- The requester is another, and the user is no reviewer. -/
def AccessRequest.HiddenFrom (r : AccessRequest) (u : User) : Prop :=
  r.requestedBy.id ≠ u.id ∧ u.id ∉ r.reviewers ∧ u.email ∉ r.reviewers

/-- The owner is another, or the preflight was used. -/
def Preflight.HiddenFrom (p : Preflight) (u : User) : Prop :=
  p.userId ≠ u.id ∨ p.isConsumed = true

namespace AccessRequest

/-- The user is the requester or a reviewer. -/
def visibleTo (r : AccessRequest) (u : User) : Bool :=
  r.requestedBy.id = u.id || r.hasReviewer u

theorem hiddenFrom_iff {r : AccessRequest} {u : User} :
    r.HiddenFrom u ↔ r.visibleTo u = false := by
  simp only [HiddenFrom, visibleTo, hasReviewer, Bool.or_eq_false_iff, decide_eq_false_iff_not,
    Std.ExtTreeSet.mem_iff_contains, Bool.not_eq_true, ne_eq]

end AccessRequest

theorem Preflight.hiddenFrom_iff {p : Preflight} {u : User} :
    p.HiddenFrom u ↔ p.usableBy u.id = false := by
  rw [HiddenFrom, usableBy, Bool.and_eq_false_iff]
  simp

namespace MemoryStore

/-- Two tables have the same rows, apart from some. -/
def DifferOnlyIn (apart : α → Prop) (t t' : Std.ExtTreeMap String α) : Prop :=
  ∀ k : String, t[k]? = t'[k]? ∨ ∀ row, t[k]? = some row ∨ t'[k]? = some row → apart row

section Tables

variable {apart : α → Prop} {t t' : Std.ExtTreeMap String α}

theorem DifferOnlyIn.filter (h : DifferOnlyIn apart t t') {see : α → Bool}
    (hsee : ∀ row, apart row → see row = false) (k : String) :
    t[k]?.filter see = t'[k]?.filter see := by
  rcases h k with hsame | hapart
  · rw [hsame]
  · have hnone : ∀ found : Option α, (∀ row, found = some row → apart row) →
        found.filter see = none := by
      intro found hfound
      cases found with
      | none => rfl
      | some row => simp [Option.filter, hsee row (hfound row rfl)]
    rw [hnone _ fun row hrow => hapart row (.inl hrow),
      hnone _ fun row hrow => hapart row (.inr hrow)]

theorem DifferOnlyIn.insert (h : DifferOnlyIn apart t t') (key : String) (new : α) :
    DifferOnlyIn apart (t.insert key new) (t'.insert key new) := by
  intro k
  rw [getElem?_insert_row, getElem?_insert_row]
  split
  · exact .inl rfl
  · exact h k

end Tables

/-- The stores differ at most in records that are hidden from the user. -/
structure SameFor (u : User) (s s' : MemoryStore) : Prop where
  requests : DifferOnlyIn (·.HiddenFrom u) s.requests s'.requests
  preflights : DifferOnlyIn (·.HiddenFrom u) s.preflights s'.preflights
  rest : { s with requests := s'.requests, preflights := s'.preflights } = s'

/-- Every hidden record of the first store is in the second, as it was. -/
structure KeepsHidden (u : User) (s t : MemoryStore) : Prop where
  requests : ∀ (k : String) (r : AccessRequest), s.requests[k]? = some r → r.HiddenFrom u →
    t.requests[k]? = some r
  preflights : ∀ (k : String) (p : Preflight), s.preflights[k]? = some p → p.HiddenFrom u →
    t.preflights[k]? = some p

/-- Nothing is stored under the id. -/
def Unused (s : MemoryStore) (id : String) : Prop :=
  s.requests[id]? = none ∧ s.preflights[id]? = none

section View

variable {u : User} {s s' : MemoryStore} (h : SameFor u s s')
include h

theorem SameFor.targets : s.targets = s'.targets := by
  have hrest := congrArg MemoryStore.targets h.rest
  exact hrest

theorem SameFor.pageSize : s.pageSize = s'.pageSize := by
  have hrest := congrArg MemoryStore.pageSize h.rest
  exact hrest

theorem SameFor.getPreflight (id : String) : s.getPreflight id u.id = s'.getPreflight id u.id :=
  h.preflights.filter (fun _ hp => Preflight.hiddenFrom_iff.mp hp) id

theorem SameFor.getRequest (id : String) :
    s.requests[id]?.filter (·.visibleTo u) = s'.requests[id]?.filter (·.visibleTo u) :=
  h.requests.filter (fun _ hr => AccessRequest.hiddenFrom_iff.mp hr) id

theorem SameFor.listRequestsFor (page : Option String) :
    s.listRequestsFor u.id page = s'.listRequestsFor u.id page := by
  have hrows : (s.requests.values.filter fun r => r.requestedBy.id = u.id) =
      s'.requests.values.filter fun r => r.requestedBy.id = u.id :=
    values_filter_congr (h.requests.filter fun r hr => decide_eq_false hr.1)
  simp only [MemoryStore.listRequestsFor, pageOf, hrows, h.pageSize]

end View

/-- What two stores have become that differed in hidden records only: they still do, and no hidden
record of either was changed. -/
structure Beside (u : User) (s s' t t' : MemoryStore) : Prop where
  same : SameFor u t t'
  kept : KeepsHidden u s t
  kept' : KeepsHidden u s' t'
  filed : t.Filed
  filed' : t'.Filed

section Beside

variable {u : User} {s s' t t' : MemoryStore}

theorem Beside.refl (h : SameFor u s s') (hs : s.Filed) (hs' : s'.Filed) : Beside u s s' s s' :=
  ⟨h, ⟨fun _ _ hr _ => hr, fun _ _ hp _ => hp⟩, ⟨fun _ _ hr _ => hr, fun _ _ hp _ => hp⟩, hs, hs'⟩

theorem KeepsHidden.putRequest (h : KeepsHidden u s t) {r : AccessRequest}
    (hopen : ∀ old, s.requests[r.id]? = some old → ¬ old.HiddenFrom u) :
    KeepsHidden u s (t.perform (.putRequest r)).2 where
  requests k old hold hhidden := by
    rw [perform_requests, getElem?_insert_row, if_neg]
    · exact h.requests k old hold hhidden
    · rintro rfl
      exact hopen old hold hhidden
  preflights := h.preflights

theorem KeepsHidden.insertPreflight (h : KeepsHidden u s t) {key : String} {p : Preflight}
    (hopen : ∀ old, s.preflights[key]? = some old → ¬ old.HiddenFrom u) :
    KeepsHidden u s { t with preflights := t.preflights.insert key p } where
  requests := h.requests
  preflights k old hold hhidden := by
    rw [getElem?_insert_row, if_neg]
    · exact h.preflights k old hold hhidden
    · rintro rfl
      exact hopen old hold hhidden

theorem Beside.putRequest (h : Beside u s s' t t') {r : AccessRequest}
    (hopen : ∀ old, s.requests[r.id]? = some old → ¬ old.HiddenFrom u)
    (hopen' : ∀ old, s'.requests[r.id]? = some old → ¬ old.HiddenFrom u) :
    Beside u s s' (t.perform (.putRequest r)).2 (t'.perform (.putRequest r)).2 where
  same := {
    requests := h.same.requests.insert r.id r
    preflights := h.same.preflights
    rest := by rw [← h.same.rest]; rfl }
  kept := h.kept.putRequest hopen
  kept' := h.kept'.putRequest hopen'
  filed := h.filed.perform _
  filed' := h.filed'.perform _

theorem Beside.putPreflight (h : Beside u s s' t t') {p : Preflight} (hfree : s.Unused p.id)
    (hfree' : s'.Unused p.id) :
    Beside u s s' (t.perform (.putPreflight p)).2 (t'.perform (.putPreflight p)).2 where
  same := {
    requests := h.same.requests
    preflights := h.same.preflights.insert p.id p
    rest := by rw [← h.same.rest]; rfl }
  kept := h.kept.insertPreflight fun old hold => by
    rw [hfree.2] at hold
    cases hold
  kept' := h.kept'.insertPreflight fun old hold => by
    rw [hfree'.2] at hold
    cases hold
  filed := h.filed.perform _
  filed' := h.filed'.perform _

theorem KeepsHidden.not_hidden_of_usable (h : KeepsHidden u s t) {id : String} {p : Preflight}
    (hp : t.getPreflight id u.id = some p) (old : Preflight) (hold : s.preflights[id]? = some old) :
    ¬ old.HiddenFrom u := by
  intro hhidden
  obtain ⟨hstored, husable⟩ := Option.filter_eq_some_iff.mp hp
  rw [h.preflights id old hold hhidden] at hstored
  cases hstored
  rw [Preflight.hiddenFrom_iff.mp hhidden] at husable
  cases husable

/-- A claim succeeds over both stores, or over neither. -/
theorem Beside.claimPreflight (h : Beside u s s' t t') (id : String) (now : Instant) :
    (t.perform (.claimPreflight id u.id now)).1 = (t'.perform (.claimPreflight id u.id now)).1 ∧
      Beside u s s' (t.perform (.claimPreflight id u.id now)).2
        (t'.perform (.claimPreflight id u.id now)).2 := by
  have hfound := h.same.getPreflight id
  simp only [perform, MemoryStore.claimPreflight]
  cases hp : t.getPreflight id u.id with
  | none =>
    rw [hp] at hfound
    rw [← hfound]
    exact ⟨rfl, h⟩
  | some p =>
    rw [hp] at hfound
    rw [← hfound]
    refine ⟨rfl, ?_, h.kept.insertPreflight (h.kept.not_hidden_of_usable hp),
      h.kept'.insertPreflight (h.kept'.not_hidden_of_usable hfound.symm), ?_, ?_⟩
    · exact ⟨h.same.requests, h.same.preflights.insert id _, by rw [← h.same.rest]⟩
    · exact ⟨h.filed.targetGroups, h.filed.targets, h.filed.requests⟩
    · exact ⟨h.filed'.targetGroups, h.filed'.targets, h.filed'.requests⟩

theorem KeepsHidden.not_hidden_of_visible (h : KeepsHidden u s t) (hf : t.Filed) {id : String}
    {r : AccessRequest} (hr : t.requests[id]?.filter (·.visibleTo u) = some r)
    (old : AccessRequest) (hold : s.requests[r.id]? = some old) : ¬ old.HiddenFrom u := by
  intro hhidden
  obtain ⟨hstored, hvisible⟩ := Option.filter_eq_some_iff.mp hr
  rw [hf.requests id r hstored] at hold
  rw [h.requests id old hold hhidden] at hstored
  cases hstored
  rw [AccessRequest.hiddenFrom_iff.mp hhidden] at hvisible
  cases hvisible

end Beside

/-- Nothing is stored under the id that is offered at the moment. -/
def Fresh (s s' : MemoryStore) (m : Moment) : Prop :=
  s.Unused m.surroundings.id ∧ s'.Unused m.surroundings.id

end MemoryStore

/-! ## The operations -/

section Operations

open Service MemoryStore

variable {a : GroupAuthorizer} {u : User} {s s' : MemoryStore}

/-- The operation returns the same over both stores and keeps what is hidden as it is. -/
abbrev KeepsSecret (a : GroupAuthorizer) (u : User) (s s' : MemoryStore) (p : Service α) : Prop :=
  Blind a (Fresh s s') (Beside u s s') (fun _ => True) p

theorem getPreflight_keepsSecret (id : String) :
    KeepsSecret a u s s' (Preflights.getPreflight u id) := by
  have hstore : Blind a (Fresh s s') (Beside u s s') (fun _ => True)
      (store (.getPreflight id u.id)) := by
    refine blind_store fun t t' h => ⟨?_, h, fun _ _ => trivial⟩
    exact congrArg Except.ok (h.same.getPreflight id)
  exact hstore.bind fun found _ => blind_orNotFound _ fun _ _ => trivial

/-! ### Preflights -/

theorem resolve_keepsSecret (targetIds : List String) :
    KeepsSecret a u s s' (Preflights.resolve u targetIds) := by
  induction targetIds with
  | nil => exact blind_pure trivial
  | cons id rest ih =>
    have hallowed : KeepsSecret a u s s' (call (.mayRequest u id)) :=
      blind_mayRequest fun t t' h => h.same.targets
    have htarget : KeepsSecret a u s s' (store (.getTarget id)) := by
      refine blind_store fun t t' h => ⟨?_, h, fun _ _ => trivial⟩
      simp only [MemoryStore.perform, h.same.targets]
    refine hallowed.bind fun answer _ => (blind_verdict answer).bind fun allowed _ => ?_
    split
    · exact htarget.bind fun found _ => (blind_orNotFound _ fun _ _ => trivial).bind fun target _ =>
        ih.bind fun more _ => blind_pure trivial
    · exact (blind_count _).bind fun _ _ => blind_throw _

theorem nameGroups_keepsSecret (groups : List (String × List Target)) :
    KeepsSecret a u s s' (Preflights.nameGroups groups) := by
  induction groups with
  | nil => exact blind_pure trivial
  | cons group rest ih =>
    obtain ⟨rule, targets⟩ := group
    exact blind_freshId.bind fun id _ => ih.bind fun more _ => blind_pure trivial

theorem draft_blind (targets : List Target) (now : Instant) :
    Blind a (Fresh s s') (Beside u s s') (fun p => s.Unused p.id ∧ s'.Unused p.id)
      (Preflights.draft u.id targets now) := by
  refine (nameGroups_keepsSecret _).bind fun groups _ => blind_freshId.bind fun id hid => ?_
  obtain ⟨m, hm, rfl⟩ := hid
  exact blind_pure hm

theorem createPreflight_keepsSecret (targetIds : List String) :
    KeepsSecret a u s s' (Preflights.createPreflight u targetIds) := by
  unfold Preflights.createPreflight
  split
  · exact (blind_count _).bind fun _ _ => blind_throw _
  · split
    · exact (blind_count _).bind fun _ _ => blind_throw _
    · refine (resolve_keepsSecret targetIds).bind fun targets _ => blind_now.bind fun now _ =>
        (draft_blind targets now).bind fun p hp => ?_
      have hput : KeepsSecret a u s s' (store (.putPreflight p)) :=
        blind_store fun t t' h => ⟨rfl, h.putPreflight hp.1 hp.2, fun _ _ => trivial⟩
      exact hput.bind fun _ _ => (blind_count _).bind fun _ _ => blind_pure trivial

/-! ### Requests -/

theorem grantGroups_keepsSecret (subject : Requester) (groups : List AccessGroup) :
    KeepsSecret a u s s' (Requests.grantGroups subject groups) := by
  induction groups with
  | nil => exact blind_pure trivial
  | cons group rest ih =>
    have hgrant : KeepsSecret a u s s' (call (.grant group subject)) :=
      blind_call (.grant group subject) (by simp) rfl fun _ _ _ _ _ _ => trivial
    refine hgrant.bind fun answer _ => ?_
    cases answer with
    | ok grants => exact ih.bind fun more _ => blind_pure trivial
    | error e => exact (blind_count _).bind fun _ _ => blind_throw _

/-- A request may be written where neither store has a hidden one. -/
theorem putRequest_keepsSecret {r : AccessRequest}
    (hopen : ∀ old, s.requests[r.id]? = some old → ¬ old.HiddenFrom u)
    (hopen' : ∀ old, s'.requests[r.id]? = some old → ¬ old.HiddenFrom u) :
    KeepsSecret a u s s' (store (.putRequest r)) :=
  blind_store fun _ _ h => ⟨rfl, h.putRequest hopen hopen', fun _ _ => trivial⟩

theorem createRequest_keepsSecret (policy : GrantPolicy) (input : Submission) :
    KeepsSecret a u s s' (Requests.createRequest policy u input) := by
  have hread : KeepsSecret a u s s' (store (.getPreflight input.preflightId u.id)) := by
    refine blind_store fun t t' h => ⟨?_, h, fun _ _ => trivial⟩
    exact congrArg Except.ok (h.same.getPreflight input.preflightId)
  have hclaim (now : Instant) :
      KeepsSecret a u s s' (store (.claimPreflight input.preflightId u.id now)) :=
    blind_store fun t t' h =>
      ⟨(h.claimPreflight _ now).1, (h.claimPreflight _ now).2, fun _ _ => trivial⟩
  refine hread.bind fun found _ => (blind_orNotFound _ fun _ _ => trivial).bind fun preflight _ => ?_
  split
  · exact (blind_count _).bind fun _ _ => blind_throw _
  · refine blind_now.bind fun now _ => (hclaim now).bind fun claimed _ => ?_
    split
    · exact (blind_count _).bind fun _ _ => blind_throw _
    · refine blind_freshId.bind fun id hid => (grantGroups_keepsSecret _ _).bind fun groups _ => ?_
      obtain ⟨m, hm, rfl⟩ := hid
      refine (putRequest_keepsSecret ?_ ?_).bind fun _ _ => ?_
      · intro old hold
        rw [hm.1.1] at hold
        cases hold
      · intro old hold
        rw [hm.2.1] at hold
        cases hold
      · exact (blind_count _).bind fun _ _ => (blind_count _).bind fun _ _ =>
          (blind_emit _).bind fun _ _ => blind_pure trivial

/-- With authorization by groups, a user outside the group of the administrators finds the requests
that are visible to the user. -/
theorem visibleRequest_eq (hu : a.isAdmin u = false) (id : String) :
    (Requests.visibleRequest u id).authorizedBy a =
      (do
        let found ← (do return (← store (.getRequest id)).filter (·.visibleTo u))
        orNotFound ("request " ++ id) found : Service AccessRequest).authorizedBy a := by
  simp only [Requests.visibleRequest, authorizedBy, via_bind, via_store (handle_keeps a),
    bind_assoc, pure_bind]
  congr
  funext found
  cases found with
  | none => rfl
  | some r =>
    have hadmin : a.handle (.isAdmin u) = pure (.ok false) := by
      rw [← hu]
      rfl
    have hreviewer : a.handle (.isReviewer u r) = pure (.ok (r.hasReviewer u)) := rfl
    rw [via_orNotFound, orNotFound, pure_bind]
    by_cases howner : r.requestedBy.id = u.id
    · rw [if_pos howner, Option.filter_some]
      simp [AccessRequest.visibleTo, howner, orNotFound]
    · rw [if_neg howner, via_bind, via_call, hadmin, pure_bind, via_bind, via_verdict, verdict,
        pure_bind, if_neg Bool.false_ne_true, via_bind, via_call, hreviewer, pure_bind, via_bind,
        via_verdict, verdict, pure_bind, Option.filter_some]
      cases hr : r.hasReviewer u with
      | true => simp [AccessRequest.visibleTo, hr, orNotFound]
      | false => simp [AccessRequest.visibleTo, howner, hr, orNotFound]

/-- A request that a user finds stands under an id with nothing hidden. -/
theorem visibleRequest_blind (hu : a.isAdmin u = false) (id : String) :
    Blind a (Fresh s s') (Beside u s s')
      (fun r => (∀ old, s.requests[r.id]? = some old → ¬ old.HiddenFrom u) ∧
        ∀ old, s'.requests[r.id]? = some old → ¬ old.HiddenFrom u)
      (Requests.visibleRequest u id) := by
  refine Blind.of_eq ?_ (visibleRequest_eq hu id)
  refine Blind.bind (blind_seen fun t t' h => ⟨?_, h, ?_⟩) fun found hfound =>
    blind_orNotFound _ hfound
  · exact congrArg Except.ok (h.same.getRequest id)
  · rintro _ ⟨⟩ r hr
    refine ⟨h.kept.not_hidden_of_visible h.filed hr, ?_⟩
    rw [h.same.getRequest id] at hr
    exact h.kept'.not_hidden_of_visible h.filed' hr

theorem getRequestFor_keepsSecret (hu : a.isAdmin u = false) (id : String) :
    KeepsSecret a u s s' (Requests.getRequestFor u id) :=
  (visibleRequest_blind hu id).bind fun _ _ => blind_now.bind fun _ _ => blind_pure trivial

theorem listRequestsFor_keepsSecret (page : Option String) :
    KeepsSecret a u s s' (Requests.listRequestsFor u page) := by
  have hlist : KeepsSecret a u s s' (store (.listRequestsFor u.id page)) :=
    blind_store fun t t' h => ⟨h.same.listRequestsFor page, h, fun _ _ => trivial⟩
  exact hlist.bind fun _ _ => blind_now.bind fun _ _ => blind_pure trivial

theorem emitRevoked_keepsSecret (requestId actorId : String) (revoked : List Grant) :
    KeepsSecret a u s s' (Requests.emitRevoked requestId actorId revoked) := by
  induction revoked with
  | nil => exact blind_pure trivial
  | cons grant rest ih => exact (blind_emit _).bind fun _ _ => ih

theorem revokeRequest_keepsSecret (hu : a.isAdmin u = false) (id : String) :
    KeepsSecret a u s s' (Requests.revokeRequest u id) := by
  refine (visibleRequest_blind hu id).bind fun request hopen => blind_now.bind fun now _ => ?_
  have hrevoke (r : AccessRequest) : KeepsSecret a u s s' (call (.revoke r u.id u.email)) :=
    blind_call (.revoke r u.id u.email) (by simp) rfl fun _ _ _ _ _ _ => trivial
  have hput {r : AccessRequest} (hr : r.SameAs request) :
      KeepsSecret a u s s' (store (.putRequest r)) := by
    rw [← hr.1] at hopen
    exact putRequest_keepsSecret hopen.1 hopen.2
  have hexpired := request.expireElapsed_sameAs now
  generalize request.expireElapsed now = current at hexpired ⊢
  obtain ⟨current, expired⟩ := current
  refine (hrevoke _).bind fun answer _ => ?_
  cases answer with
  | error e =>
    cases expired with
    | false => exact blind_throw _
    | true => exact (hput hexpired).bind fun _ _ => blind_throw _
  | ok revoked =>
    have hwritten := (current.applyUpdates_sameAs revoked now).trans hexpired
    exact (hput hwritten).bind fun _ _ => (blind_count _).bind fun _ _ =>
      (emitRevoked_keepsSecret _ _ _).bind fun _ _ => blind_pure trivial

end Operations

/-! ## The result -/

/-- What a user may do with preflights and requests. -/
def Operation.IsOf (u : User) : Operation → Prop
  | createPreflight user _ | getPreflight user _ | createRequest user _ | getRequest user _
  | listRequestsFor user _ | revokeRequest user _ => user = u
  | _ => False

open MemoryStore in
theorem Operation.keepsSecret {a : GroupAuthorizer} {u : User} {s s' : MemoryStore}
    (rules : ServiceRules) (hu : a.isAdmin u = false) {o : Operation} (ho : o.IsOf u) :
    KeepsSecret a u s s' (o.program rules) := by
  cases o with
  | createPreflight user targetIds =>
    cases ho
    exact createPreflight_keepsSecret targetIds
  | getPreflight user id =>
    cases ho
    exact getPreflight_keepsSecret id
  | createRequest user input =>
    cases ho
    exact createRequest_keepsSecret rules.policy input
  | getRequest user id =>
    cases ho
    exact getRequestFor_keepsSecret hu id
  | listRequestsFor user page =>
    cases ho
    exact listRequestsFor_keepsSecret page
  | revokeRequest actor id =>
    cases ho
    exact revokeRequest_keepsSecret hu id
  | _ => exact ho.elim

/-- An operation over a store in memory, alone, with authorization by groups. -/
def Operation.aloneOver (rules : ServiceRules) (a : GroupAuthorizer) (o : Operation)
    (ms : List Moment) (s : MemoryStore) :
    Option (Except ServiceError o.Result × MemoryStore × Past) :=
  ((o.program rules).authorizedBy a).run.alone ms s []

open MemoryStore in
/-- Two stores that any calls have made, and that differ only in records hidden from a user outside
the group of the administrators. Whatever the user asks for, at the same times, with the same answers of
the workflow and with the same new ids, the result is the same over both: the record or the page, or
the error with its text. Neither run changes a hidden record, and the stores still differ in hidden
records only, so the same holds of what the user asks for next. Both runs come to an end when the
workflow returns. -/
theorem hidden_unobservable (rules : ServiceRules) (a : GroupAuthorizer) (u : User)
    (hu : u.inGroup a.adminGroup = false) (pageSize pageSize' : Nat)
    (calls calls' : List StoreCall)
    (hsame : SameFor u ((empty pageSize).run calls) ((empty pageSize').run calls'))
    (o : Operation) (ho : o.IsOf u) (ms : List Moment)
    (hfresh : ∀ m ∈ ms, Fresh ((empty pageSize).run calls) ((empty pageSize').run calls') m) :
    let s := (empty pageSize).run calls
    let s' := (empty pageSize').run calls'
    (o.aloneOver rules a ms s).map (·.1) = (o.aloneOver rules a ms s').map (·.1) ∧
    (∀ r t past, o.aloneOver rules a ms s = some (r, t, past) → KeepsHidden u s t) ∧
    (∀ r t past, o.aloneOver rules a ms s' = some (r, t, past) → KeepsHidden u s' t) ∧
    (∀ r r' t t' past past', o.aloneOver rules a ms s = some (r, t, past) →
      o.aloneOver rules a ms s' = some (r', t', past') → SameFor u t t') ∧
    ∀ moments : Nat → Moment, (∀ n, Fresh s s' (moments n)) → (∀ n, (moments n).Returns) →
      ∃ n, (o.aloneOver rules a ((List.range n).map moments) s).isSome = true ∧
        (o.aloneOver rules a ((List.range n).map moments) s').isSome = true := by
  intro s s'
  have hbeside : Beside u s s' s s' :=
    .refl hsame (run_filed pageSize calls) (run_filed pageSize' calls')
  have hsteps := o.keepsSecret rules hu ho s s' hbeside
  have hends : ∀ moments : Nat → Moment, (∀ n, Fresh s s' (moments n)) →
      (∀ n, (moments n).Returns) →
      ∃ n, (o.aloneOver rules a ((List.range n).map moments) s).isSome = true ∧
        (o.aloneOver rules a ((List.range n).map moments) s').isSome = true :=
    fun _ hfresh hreturns => hsteps.exists_alone hfresh hreturns [] []
  rcases Interaction.alone_of_inStep hsteps hfresh [] [] with
    ⟨hnone, hnone'⟩ | ⟨r, r', t, t', q, q', hrun, hrun', hend, rfl, -⟩
  · have hnone : o.aloneOver rules a ms s = none := hnone
    have hnone' : o.aloneOver rules a ms s' = none := hnone'
    rw [hnone, hnone']
    refine ⟨rfl, ?_, ?_, ?_, hends⟩
    all_goals
      intros
      contradiction
  · have hrun : o.aloneOver rules a ms s = some (r, t, q) := hrun
    have hrun' : o.aloneOver rules a ms s' = some (r, t', q') := hrun'
    rw [hrun, hrun']
    refine ⟨rfl, ?_, ?_, ?_, hends⟩
    · rintro _ _ _ ⟨⟩
      exact hend.kept
    · rintro _ _ _ ⟨⟩
      exact hend.kept'
    · rintro _ _ _ _ _ _ ⟨⟩ ⟨⟩
      exact hend.same

namespace Eavesdropper

def admins : GroupAuthorizer := ⟨"admins"⟩

def eve : User := ⟨"eve", "eve@acme.com", {"eng"}⟩

/-- A request of someone else, with someone else to review it. -/
def request : AccessRequest :=
  ⟨"r", "p", ⟨"alice", "alice@acme.com"⟩, none, [], {"bob"}, ⟨0, 0⟩, ⟨0, 0⟩⟩

def moment : Moment :=
  ⟨Surroundings.plain, ⟨0, 0⟩⟩

abbrev revocation : Operation :=
  .revokeRequest eve "r"

open MemoryStore in
/-- Who tries to revoke the request of someone else is told that there is none, whether or not there
is one. -/
theorem nothing_learned :
    eve.inGroup admins.adminGroup = false ∧
    SameFor eve ((empty 50).run [.putRequest request]) ((empty 50).run []) ∧
    revocation.IsOf eve ∧
    (∀ m ∈ [moment], Fresh ((empty 50).run [.putRequest request]) ((empty 50).run []) m) ∧
    (revocation.aloneOver ⟨.enforced, .standard⟩ admins [moment]
      ((empty 50).run [.putRequest request])).map (·.1) = some (.error (.notFound "request r")) ∧
    (revocation.aloneOver ⟨.enforced, .standard⟩ admins [moment]
      ((empty 50).run [])).map (·.1) = some (.error (.notFound "request r")) := by
  have houtside : eve.inGroup admins.adminGroup = false := by decide
  have hhidden : request.HiddenFrom eve := by
    rw [AccessRequest.hiddenFrom_iff]
    decide
  have hsame : SameFor eve ((empty 50).run [.putRequest request]) ((empty 50).run []) := by
    refine ⟨fun k => ?_, fun k => .inl rfl, rfl⟩
    by_cases hk : request.id = k
    · refine .inr fun row hrow => ?_
      rcases hrow with hrow | hrow
      · rw [show ((empty 50).run [.putRequest request]).requests[k]? = some request from
          getElem?_insert_row.trans (if_pos hk)] at hrow
        cases hrow
        exact hhidden
      · cases hrow
    · exact .inl (getElem?_insert_row.trans (if_neg hk))
  have hfresh : ∀ m ∈ [moment],
      Fresh ((empty 50).run [.putRequest request]) ((empty 50).run []) m := by
    intro m hm
    rw [List.mem_singleton] at hm
    subst hm
    exact ⟨⟨by decide +kernel, by decide +kernel⟩, ⟨by decide +kernel, by decide +kernel⟩⟩
  have hanswer : (revocation.aloneOver ⟨.enforced, .standard⟩ admins [moment]
      ((empty 50).run [.putRequest request])).map (·.1) = some (.error (.notFound "request r")) := by
    decide +kernel
  obtain ⟨hequal, -⟩ := hidden_unobservable ⟨.enforced, .standard⟩ admins eve houtside 50 50
    [.putRequest request] [] hsame revocation rfl [moment] hfresh
  exact ⟨houtside, hsame, rfl, hfresh, hanswer, hequal ▸ hanswer⟩

end Eavesdropper

end AccessGrants
