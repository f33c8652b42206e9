import AccessGrants.Proofs.Requests.Recorded
import AccessGrants.Proofs.Requests.Shape
import AccessGrants.Proofs.Store.Rows

/-!
# AccessGrants.Proofs.Requests.Ledger

The events that were sent mirror the stored requests: one for each request and one for each of its
revoked grants. So do the counters.

* `AccessRequest.reports` — the events that belong to a stored request.
* `Session.Mirrored`      — what the events and the counters say of the store.
* `Session.Ledgered`      — this, and what is known of the ids. It is the invariant.
* `Ledgered.aside`, `Ledgered.submitted`, `Ledgered.settled` — the three kinds of steps.
-/

namespace AccessGrants

open Exchange
open LocalWorkflow (revokedIn)

namespace Grant

def isRevoked (g : Grant) : Bool :=
  g.status = .revoked

/-- The event of a grant that was revoked by someone. -/
def revocation? (requestId : String) (g : Grant) : Option AccessEvent :=
  if g.isRevoked then g.revokedBy.map (.grantRevoked requestId g.id) else none

variable {a requestId : String} {t : Instant} {g : Grant}

theorem revocation?_of_active (h : g.isActive = true) : g.revocation? requestId = none := by
  have hstatus : g.status = .active := of_decide_eq_true h
  simp [revocation?, isRevoked, hstatus]

theorem not_isRevoked_of_active (h : g.isActive = true) : g.isRevoked = false := by
  have hstatus : g.status = .active := of_decide_eq_true h
  simp [isRevoked, hstatus]

theorem settle_cases (a : String) (t : Instant) (g : Grant) :
    (g.isActive = true ∧ g.settle a t = { g with status := .expired } ∧
      g.expireIfElapsed t = { g with status := .expired }) ∨
    (g.isActive = true ∧ g.settle a t = g.revokedAs a ∧ g.expireIfElapsed t = g) ∨
    (g.isActive = false ∧ g.settle a t = g ∧ g.expireIfElapsed t = g) := by
  by_cases helapsed : g.elapsed t = true
  · have hactive : g.isActive = true := (Bool.and_eq_true_iff.mp helapsed).1
    exact .inl ⟨hactive, if_pos helapsed, if_pos helapsed⟩
  · have hexpire : g.expireIfElapsed t = g := if_neg helapsed
    by_cases hactive : g.isActive = true
    · refine .inr (.inl ⟨hactive, ?_, hexpire⟩)
      rw [settle, if_neg helapsed, if_pos hactive]
    · have hfinal : g.isActive = false := Bool.eq_false_iff.mpr hactive
      exact .inr (.inr ⟨hfinal, settle_of_final hfinal, hexpire⟩)

/-- The events of the grants that were revoked stay, and those of the grants that are revoked now are
added. -/
theorem revocation?_settle (grants : List Grant) :
    ((grants.map (·.settle a t)).filterMap (revocation? requestId)).Perm
      (grants.filterMap (revocation? requestId) ++
        ((grants.map (·.expireIfElapsed t)).filter (·.isActive)).map fun g =>
          .grantRevoked requestId g.id a) := by
  induction grants with
  | nil => exact .refl _
  | cons g rest ih =>
    rw [List.map_cons, List.map_cons, List.filterMap_cons, List.filterMap_cons, List.filter_cons]
    rcases settle_cases a t g with ⟨hactive, hs, he⟩ | ⟨hactive, hs, he⟩ | ⟨hfinal, hs, he⟩
    · rw [hs, he, revocation?_of_active hactive]
      exact ih
    · rw [hs, he, revocation?_of_active hactive, if_pos hactive]
      exact (ih.cons _).trans List.perm_middle.symm
    · rw [hs, he, if_neg (Bool.eq_false_iff.mp hfinal)]
      cases g.revocation? requestId with
      | none => exact ih
      | some event => exact ih.cons event

theorem countP_settle (grants : List Grant) :
    (grants.map (·.settle a t)).countP (·.isRevoked) = grants.countP (·.isRevoked) +
      ((grants.map (·.expireIfElapsed t)).filter (·.isActive)).length := by
  induction grants with
  | nil => rfl
  | cons g rest ih =>
    rw [List.map_cons, List.map_cons, List.countP_cons, List.countP_cons, List.filter_cons, ih]
    rcases settle_cases a t g with ⟨hactive, hs, he⟩ | ⟨hactive, hs, he⟩ | ⟨hfinal, hs, he⟩
    · have hexpired : Grant.isActive { g with status := .expired } = false := rfl
      have hnew : Grant.isRevoked { g with status := .expired } = false := rfl
      rw [hs, he, hexpired, hnew, not_isRevoked_of_active hactive]
      simp
    · have hnew : (g.revokedAs a).isRevoked = true := rfl
      rw [hs, he, hactive, hnew, not_isRevoked_of_active hactive]
      simp
      omega
    · rw [hs, he, hfinal]
      simp
      omega

end Grant

namespace LocalWorkflow

theorem revokedIn_revoke (r : AccessRequest) (a : String) :
    revokedIn (revoke r a) = (r.grants.filter (·.isActive)).map (·.revokedAs a) := by
  rcases revoke_cases r a with ⟨e, he, hnone⟩ | hok
  · have hactive : r.grants.filter (·.isActive) = [] :=
      List.filter_eq_nil_iff.mpr fun g hg => by simp [hnone g hg]
    rw [he, hactive]
    rfl
  · rw [hok]
    rfl

end LocalWorkflow

namespace AccessRequest

/-- What was reported of a stored request: that it was created, and which of its grants were revoked. -/
def reports (r : AccessRequest) : List AccessEvent :=
  .requestCreated r.id r.requestedBy.id (r.grants.map (·.id)) ::
    r.grants.filterMap (Grant.revocation? r.id)

/-- Every revoked grant names its revoker. -/
def IsSigned (r : AccessRequest) : Prop :=
  ∀ g ∈ r.grants, g.isRevoked = true → g.revokedBy.isSome = true

/-- The grants of each group are for its targets, in their order. -/
def InOrder (r : AccessRequest) : Prop :=
  ∀ g ∈ r.groups, g.grants.map (·.targetId) = g.targets.map (·.id)

variable {r : AccessRequest} {actor : User} {id : String} {t : Instant}

/-- The settled request, as the workflow makes it. -/
abbrev settledBy (r : AccessRequest) (actor : User) (t : Instant) : AccessRequest :=
  r.outcome t (LocalWorkflow.revoke (r.expireElapsed t).1 actor.id)

theorem reports_settled (hn : (r.grants.map (·.id)).Nodup) :
    (r.settledBy actor t).reports.Perm (r.reports ++
      Revocation.reports ⟨actor, id⟩ r (revokedIn (LocalWorkflow.revoke (r.expireElapsed t).1 actor.id))) := by
  have hsame := r.outcome_sameAs t (LocalWorkflow.revoke (r.expireElapsed t).1 actor.id)
  have hids : (r.settledBy actor t).grants.map (·.id) = r.grants.map (·.id) := by
    rw [outcome_grants hn, List.map_map]
    exact List.map_congr_left fun g _ => g.settle_id actor.id t
  rw [reports, reports, hids, hsame.1, hsame.2.2, outcome_grants hn, Revocation.reports,
    LocalWorkflow.revokedIn_revoke, grants_expireElapsed, List.map_map]
  exact (Grant.revocation?_settle r.grants).cons _

theorem countP_settled (hn : (r.grants.map (·.id)).Nodup) :
    (r.settledBy actor t).grants.countP (·.isRevoked) = r.grants.countP (·.isRevoked) +
      (revokedIn (LocalWorkflow.revoke (r.expireElapsed t).1 actor.id)).length := by
  rw [outcome_grants hn, LocalWorkflow.revokedIn_revoke, grants_expireElapsed, List.length_map]
  exact Grant.countP_settle r.grants

theorem IsSigned.settled (h : r.IsSigned) (hn : (r.grants.map (·.id)).Nodup) :
    (r.settledBy actor t).IsSigned := by
  intro g hg hrevoked
  rw [outcome_grants hn] at hg
  obtain ⟨g₀, hg₀, rfl⟩ := List.mem_map.mp hg
  rcases g₀.settle_cases actor.id t with ⟨-, hs, -⟩ | ⟨-, hs, -⟩ | ⟨-, hs, -⟩
  · rw [hs] at hrevoked
    cases hrevoked
  · rw [hs]
    rfl
  · rw [hs] at hrevoked ⊢
    exact h g₀ hg₀ hrevoked

theorem InOrder.settled (h : r.InOrder) (hn : (r.grants.map (·.id)).Nodup) :
    (r.settledBy actor t).InOrder := by
  obtain ⟨t', heq⟩ := outcome_eq (t := t) (a := actor.id) hn
  intro g hg
  rw [settledBy, heq] at hg
  obtain ⟨g₀, hg₀, rfl⟩ := List.mem_map.mp hg
  have hsame : ∀ grant : Grant, (grant.settle actor.id t).targetId = grant.targetId := by
    intro grant
    rcases grant.settle_cases actor.id t with ⟨-, hs, -⟩ | ⟨-, hs, -⟩ | ⟨-, hs, -⟩
    · rw [hs]
    · rw [hs]
      rfl
    · rw [hs]
  rw [List.map_map, ← h g₀ hg₀]
  exact List.map_congr_left fun grant _ => hsame grant

end AccessRequest

/-- An event of a revoked grant comes after the event of its request. -/
def CreatedFirst (events : List AccessEvent) : Prop :=
  ∀ before after requestId grantId actorId,
    events = before ++ .grantRevoked requestId grantId actorId :: after →
      ∃ userId grantIds, .requestCreated requestId userId grantIds ∈ before

theorem createdFirst_nil : CreatedFirst [] := by
  intro before after requestId grantId actorId h
  simp at h

/-- Further events are about requests that were created before, if they are about revoked grants. -/
theorem CreatedFirst.append {events new : List AccessEvent} (h : CreatedFirst events)
    (hnew : ∀ requestId grantId actorId, .grantRevoked requestId grantId actorId ∈ new →
      ∃ userId grantIds, .requestCreated requestId userId grantIds ∈ events) :
    CreatedFirst (events ++ new) := by
  intro before after requestId grantId actorId heq
  rcases List.append_eq_append_iff.mp heq with ⟨more, rfl, hrest⟩ | ⟨rest, hevents, hafter⟩
  · have hmem : .grantRevoked requestId grantId actorId ∈ new := by
      rw [hrest]
      simp
    obtain ⟨userId, grantIds, hcreated⟩ := hnew requestId grantId actorId hmem
    exact ⟨userId, grantIds, List.mem_append_left _ hcreated⟩
  · cases rest with
    | nil =>
      have hmem : .grantRevoked requestId grantId actorId ∈ new := by
        rw [List.nil_append] at hafter
        rw [← hafter]
        exact List.mem_cons_self
      obtain ⟨userId, grantIds, hcreated⟩ := hnew requestId grantId actorId hmem
      rw [List.append_nil] at hevents
      exact ⟨userId, grantIds, hevents ▸ hcreated⟩
    | cons event rest =>
      cases (List.cons.inj hafter).1
      exact h before rest requestId grantId actorId hevents

namespace Session

/-- The events that were sent, in order, whether they arrived or not. -/
def events (s : Session) : List AccessEvent :=
  (told emitted? s.past).reverse

def issuedCount (s : Session) : Nat :=
  (told issuedCount? s.past).sum

def revokedCount (s : Session) : Nat :=
  (told revokedCount? s.past).sum

/-- The ids that were handed out. -/
def ids (s : Session) : List String :=
  told issued? s.past

/-- All stored requests. -/
def requests (s : Session) : List AccessRequest :=
  s.store.requests.values

/-- The events that were sent are those that belong to the stored requests, and the counters are the
numbers of stored and of revoked grants. -/
structure Mirrored (s : Session) : Prop where
  events : s.events.Perm (s.requests.flatMap (·.reports))
  createdFirst : CreatedFirst s.events
  signed : ∀ r ∈ s.requests, r.IsSigned
  inOrder : ∀ r ∈ s.requests, r.InOrder
  issued : s.issuedCount = (s.requests.flatMap (·.grants)).length
  revoked : s.revokedCount = (s.requests.flatMap (·.grants)).countP (·.isRevoked)

/-- The session is mirrored, and ids of requests and of their grants are never used twice. -/
structure Ledgered (s : Session) : Prop extends s.Mirrored where
  keyed : MemoryStore.Keyed AccessRequest.id s.store.requests
  known : ∀ r ∈ s.requests, r.id ∈ s.ids
  distinct : ∀ r ∈ s.requests, (r.grants.map (·.id)).Nodup

theorem ledgered_start (pageSize : Nat) : (start pageSize).Ledgered := by
  have hnone : (start pageSize).requests = [] := by
    rw [requests, start, MemoryStore.values_eq]
    rfl
  refine ⟨⟨?_, createdFirst_nil, ?_, ?_, ?_, ?_⟩, MemoryStore.keyed_empty _, ?_, ?_⟩
  all_goals rw [hnone]
  · exact .refl _
  · simp
  · simp
  · rfl
  · rfl
  · simp
  · simp

variable {s s' : Session}

theorem Ledgered.aside (h : s.Ledgered) (haside : s.Aside s') : s'.Ledgered := by
  have hrequests : s'.requests = s.requests := congrArg (·.values) haside.requests
  have hevents : s'.events = s.events := congrArg List.reverse haside.events
  refine ⟨⟨?_, ?_, ?_, ?_, ?_, ?_⟩, ?_, ?_, ?_⟩
  · rw [hevents, hrequests]
    exact h.events
  · rw [hevents]
    exact h.createdFirst
  · rw [hrequests]
    exact h.signed
  · rw [hrequests]
    exact h.inOrder
  · rw [hrequests, ← h.issued]
    exact congrArg List.sum haside.issued
  · rw [hrequests, ← h.revoked]
    exact congrArg List.sum haside.revoked
  · rw [haside.requests]
    exact h.keyed
  · rw [hrequests]
    exact fun r hr => haside.ids.subset (h.known r hr)
  · rw [hrequests]
    exact h.distinct

/-- A request that was stored under a new id stands beside all others. -/
theorem Ledgered.perm_of_submitted {r : AccessRequest} (h : s.Ledgered) (hs : s.Submitted s' r)
    (hids : s'.ids.Nodup) : s'.requests.Perm (r :: s.requests) := by
  obtain ⟨before, hbefore, hall⟩ := hs.ids
  rw [ids, hall] at hids
  have hnew : r.id ∉ before := (List.nodup_cons.mp (List.nodup_append.mp hids).2.1).1
  have habsent : s.store.requests[r.id]? = none := by
    cases hstored : s.store.requests[r.id]? with
    | none => rfl
    | some q =>
      have hq : q ∈ s.requests := MemoryStore.mem_values.mpr ⟨r.id, hstored⟩
      have hknown : r.id ∈ s.ids := h.keyed r.id q hstored ▸ h.known q hq
      exact absurd (hbefore.subset hknown) hnew
  rw [requests, hs.requests, requests]
  have hperm := MemoryStore.values_insert_perm s.store.requests r.id r
  rwa [MemoryStore.erase_of_getElem?_eq_none habsent] at hperm

theorem Ledgered.submitted {r : AccessRequest} (h : s.Ledgered) (hs : s.Submitted s' r)
    (hids : s'.ids.Nodup) : s'.Ledgered := by
  have hperm := h.perm_of_submitted hs hids
  obtain ⟨before, hbefore, hall⟩ := hs.ids
  rw [ids, hall] at hids
  have hactive : ∀ g ∈ r.grants, g.isActive = true := by
    intro g hg
    obtain ⟨group, hgroup, hg⟩ := List.mem_flatMap.mp hg
    exact (hs.groups group hgroup).active g hg
  have hquiet : r.grants.filterMap (Grant.revocation? r.id) = [] :=
    List.filterMap_eq_nil_iff.mpr fun g hg => Grant.revocation?_of_active (hactive g hg)
  have hnone : r.grants.countP (·.isRevoked) = 0 :=
    List.countP_eq_zero.mpr fun g hg => by simp [Grant.not_isRevoked_of_active (hactive g hg)]
  have hevents : s'.events = s.events ++ r.reports := by
    rw [events, hs.events, List.reverse_cons, AccessRequest.reports, hquiet]
    rfl
  have hmem : ∀ q, q ∈ s'.requests ↔ q = r ∨ q ∈ s.requests := fun q => by
    rw [hperm.mem_iff, List.mem_cons]
  refine ⟨⟨?_, ?_, ?_, ?_, ?_, ?_⟩, ?_, ?_, ?_⟩
  · rw [hevents]
    exact ((h.events.append_right _).trans List.perm_append_comm).trans
      (hperm.flatMap_right AccessRequest.reports).symm
  · rw [hevents]
    refine h.createdFirst.append fun requestId grantId actorId hevent => ?_
    rw [AccessRequest.reports, hquiet] at hevent
    simp at hevent
  · rintro q hq
    rcases (hmem q).mp hq with rfl | hq
    · intro g hg hrevoked
      rw [Grant.not_isRevoked_of_active (hactive g hg)] at hrevoked
      cases hrevoked
    · exact h.signed q hq
  · rintro q hq
    rcases (hmem q).mp hq with rfl | hq
    · exact fun g hg => (hs.groups g hg).inOrder
    · exact h.inOrder q hq
  · rw [issuedCount, hs.issued, List.sum_cons, (hperm.flatMap_right AccessRequest.grants).length_eq,
      List.flatMap_cons, List.length_append, ← h.issued]
    rfl
  · rw [revokedCount, hs.revoked, (hperm.flatMap_right AccessRequest.grants).countP_eq,
      List.flatMap_cons, List.countP_append, hnone, Nat.zero_add, ← h.revoked]
    rfl
  · rw [hs.requests]
    exact h.keyed.insert r
  · intro q hq
    rw [ids, hall]
    rcases (hmem q).mp hq with rfl | hq
    · simp
    · exact List.mem_append_right _ (List.mem_cons_of_mem _ (hbefore.subset (h.known q hq)))
  · rintro q hq
    rcases (hmem q).mp hq with rfl | hq
    · exact List.nodup_reverse.mp (List.nodup_append.mp hids).1
    · exact h.distinct q hq

theorem perm_reports_replaced {events reported : List AccessEvent}
    {stored stored' rest : List AccessRequest} {r q : AccessRequest}
    (hevents : events.Perm (stored.flatMap (·.reports))) (hbefore : stored.Perm (r :: rest))
    (hafter : stored'.Perm (q :: rest)) (hq : q.reports.Perm (r.reports ++ reported)) :
    (events ++ reported).Perm (stored'.flatMap (·.reports)) := by
  have hold : events.Perm (r.reports ++ rest.flatMap (·.reports)) :=
    hevents.trans (hbefore.flatMap_right _)
  have hnew : (q.reports ++ rest.flatMap (·.reports)).Perm (stored'.flatMap (·.reports)) :=
    (hafter.flatMap_right _).symm
  refine (hold.append_right reported).trans (.trans ?_ hnew)
  rw [List.append_assoc]
  refine (List.perm_append_comm.append_left r.reports).trans ?_
  rw [← List.append_assoc]
  exact hq.symm.append_right _

/-- A settled request takes the place of the one that was read, and the others are the same before and
after. -/
theorem Ledgered.perm_of_settled {o : Revocation} {r : AccessRequest} {t : Instant}
    {verdict : Except WorkflowError (List Grant)} (h : s.Ledgered) (hs : s.Settled s' o r t verdict) :
    ∃ rest, s.requests.Perm (r :: rest) ∧ s'.requests.Perm (r.settledBy o.actor t :: rest) := by
  have hid : r.id = o.id := h.keyed o.id r hs.stored
  refine ⟨_, MemoryStore.values_perm_of_getElem? hs.stored, ?_⟩
  rw [requests, hs.requests, hs.answered, hid]
  exact MemoryStore.values_insert_perm _ _ _

theorem Ledgered.settled {o : Revocation} {r : AccessRequest} {t : Instant}
    {verdict : Except WorkflowError (List Grant)} (h : s.Ledgered) (hs : s.Settled s' o r t verdict) :
    s'.Ledgered := by
  obtain ⟨rest, hbefore, hafter⟩ := h.perm_of_settled hs
  obtain ⟨hstored, rfl, hrequests, hevents, hissued, hrevoked, hids⟩ := hs
  have hr : r ∈ s.requests := MemoryStore.mem_values.mpr ⟨o.id, hstored⟩
  have hn := h.distinct r hr
  let q := r.settledBy o.actor t
  have hq : q.id = r.id := (r.outcome_sameAs t _).1
  have hgrants : q.grants = r.grants.map (·.settle o.actor.id t) := AccessRequest.outcome_grants hn
  have hmem : ∀ x ∈ s'.requests, x = q ∨ x ∈ s.requests := by
    intro x hx
    rcases List.mem_cons.mp (hafter.mem_iff.mp hx) with rfl | hx
    · exact .inl rfl
    · exact .inr (hbefore.mem_iff.mpr (List.mem_cons_of_mem _ hx))
  let reported := o.reports r (revokedIn (LocalWorkflow.revoke (r.expireElapsed t).1 o.actor.id))
  have hevents : s'.events = s.events ++ reported := by
    rw [events, hevents, List.reverse_append, List.reverse_reverse]
    rfl
  refine ⟨⟨?_, ?_, ?_, ?_, ?_, ?_⟩, ?_, ?_, ?_⟩
  · rw [hevents]
    exact perm_reports_replaced h.events hbefore hafter (AccessRequest.reports_settled hn)
  · rw [hevents]
    refine h.createdFirst.append fun requestId grantId actorId hevent => ?_
    obtain ⟨g, -, heq⟩ := List.mem_map.mp hevent
    cases heq
    refine ⟨r.requestedBy.id, r.grants.map (·.id), h.events.mem_iff.mpr ?_⟩
    exact List.mem_flatMap.mpr ⟨r, hr, List.mem_cons_self⟩
  · rintro x hx
    rcases hmem x hx with rfl | hx
    · exact (h.signed r hr).settled hn
    · exact h.signed x hx
  · rintro x hx
    rcases hmem x hx with rfl | hx
    · exact (h.inOrder r hr).settled hn
    · exact h.inOrder x hx
  · have hsame : s'.issuedCount = s.issuedCount := congrArg List.sum hissued
    rw [hsame, h.issued, (hbefore.flatMap_right AccessRequest.grants).length_eq,
      (hafter.flatMap_right AccessRequest.grants).length_eq, List.flatMap_cons, List.flatMap_cons,
      List.length_append, List.length_append, hgrants, List.length_map]
  · have hsum : s'.revokedCount = _ + s.revokedCount := hrevoked
    rw [hsum, h.revoked, (hbefore.flatMap_right AccessRequest.grants).countP_eq,
      (hafter.flatMap_right AccessRequest.grants).countP_eq, List.flatMap_cons, List.flatMap_cons,
      List.countP_append, List.countP_append, AccessRequest.countP_settled hn]
    omega
  · rw [hrequests, ← hq]
    exact h.keyed.insert q
  · intro x hx
    refine hids.subset ?_
    rcases hmem x hx with rfl | hx
    · rw [hq]
      exact h.known r hr
    · exact h.known x hx
  · rintro x hx
    rcases hmem x hx with rfl | hx
    · rw [hgrants, List.map_map]
      have hids : r.grants.map ((·.id) ∘ (·.settle o.actor.id t)) = r.grants.map (·.id) :=
        List.map_congr_left fun g _ => g.settle_id o.actor.id t
      rw [hids]
      exact hn
    · exact h.distinct x hx

end Session

end AccessGrants
