import AccessGrants.Proofs.Alone.Session
import AccessGrants.Proofs.Concurrency.Handlers
import AccessGrants.Proofs.Requests.Revocations
import AccessGrants.Proofs.Store.Frames
import Mathlib.Algebra.Ring.Nat

/-!
# AccessGrants.Proofs.Requests.Recorded

What the operations leave behind in a session, with the workflow that only records grants. They are
told by the requests that are stored, the events that were sent, the grants that were counted and the
ids that were handed out.

* `LocalWorkflow.handle` — the workflow; the authorizer stays open.
* `Session.Aside`        — new ids may have been handed out, and that is all.
* `Session.Numbered`     — grants were issued, under new ids.
* `Session.Submitted`    — a request was stored, counted and reported.
* `Session.Settled`      — a stored request was settled, and what was revoked was counted and reported.
* `within_ensures`, `createRequest_records`, `revokeRequest_records` — there is nothing else.
-/

namespace AccessGrants

namespace Exchange

/-- The number of grants that was added to the counter of issued grants. -/
def issuedCount? : Exchange Call.Reply → Option Nat
  | ⟨.resource (.count (.grantsIssued n)), _⟩ => some n
  | _ => none

/-- The number of grants that was added to the counter of revoked grants. -/
def revokedCount? : Exchange Call.Reply → Option Nat
  | ⟨.resource (.count (.grantsRevoked n)), _⟩ => some n
  | _ => none

end Exchange

open Exchange

namespace LocalWorkflow

/-- Grants are recorded and revoked without a provider. All other calls stay open. -/
def handle : (c : Call) → Service c.Reply
  | .grant group subject => Service.ofResources (grant group subject)
  | .revoke request actorId _ => pure (revoke request actorId)
  | c => Service.call c

theorem handle_keeps : Service.Keeps handle := fun _ => rfl

theorem handle_of_isAside {c : Call} (h : c.isAside = true) : handle c = Service.call c := by
  cases c with
  | grant group subject => cases h
  | revoke request actorId email => cases h
  | _ => rfl

end LocalWorkflow

namespace Session

/-- Nothing has happened to requests and grants since. -/
structure Aside (s s' : Session) : Prop where
  requests : s'.store.requests = s.store.requests
  events : told emitted? s'.past = told emitted? s.past
  issued : told issuedCount? s'.past = told issuedCount? s.past
  revoked : told revokedCount? s'.past = told revokedCount? s.past
  ids : told issued? s.past <:+ told issued? s'.past

theorem Aside.refl (s : Session) : s.Aside s :=
  ⟨rfl, rfl, rfl, rfl, List.suffix_refl _⟩

theorem Aside.trans {s s' s'' : Session} (h : s.Aside s') (h' : s'.Aside s'') : s.Aside s'' where
  requests := h'.requests.trans h.requests
  events := h'.events.trans h.events
  issued := h'.issued.trans h.issued
  revoked := h'.revoked.trans h.revoked
  ids := h.ids.trans h'.ids

theorem aside_freshId (s : MemoryStore) (past : Past) (id : String) :
    Aside ⟨s, past⟩ ⟨s, ⟨.resource .freshId, some id⟩ :: past⟩ :=
  ⟨rfl, rfl, rfl, rfl, List.suffix_cons _ _⟩

theorem aside_answer {m : Moment} {s s' : MemoryStore} {past : Past} {c : Call} {r : c.Reply}
    (hc : c.isAside = true) (h : s.answer m c = some (r, s')) :
    Aside ⟨s, past⟩ ⟨s', ⟨c, some r⟩ :: past⟩ := by
  cases c with
  | resource q =>
    cases q with
    | store c =>
      cases h
      refine ⟨?_, rfl, rfl, rfl, List.suffix_refl _⟩
      show (s.perform c).2.requests = s.requests
      rw [MemoryStore.perform_requests]
      cases c with
      | putRequest r => cases hc
      | _ => rfl
    | freshId =>
      cases h
      exact aside_freshId s past _
    | emit event => cases hc
    | count metric =>
      cases h
      cases metric with
      | grantsIssued n => cases hc
      | grantsRevoked n => cases hc
      | _ => exact ⟨rfl, rfl, rfl, rfl, List.suffix_refl _⟩
    | _ =>
      cases h
      exact ⟨rfl, rfl, rfl, rfl, List.suffix_refl _⟩
  | grant group subject => cases hc
  | revoke request id email => cases hc
  | _ =>
    cases h
    exact ⟨rfl, rfl, rfl, rfl, List.suffix_refl _⟩

end Session

open Session

namespace Service

variable {s : MemoryStore} {past : Past} {ok : MemoryStore → Past → α → Prop}
  {err : MemoryStore → Past → ServiceError → Prop}

theorem within_ensures {p : Service α} (h : p.Within Call.isAside) (s : MemoryStore) (past : Past) :
    p.Ensures (fun s' past' _ => Aside ⟨s, past⟩ ⟨s', past'⟩)
      (fun s' past' _ => Aside ⟨s, past⟩ ⟨s', past'⟩) s past := by
  have hkept := Interaction.ensures_of_obeys (fun s' past' => Aside ⟨s, past⟩ ⟨s', past'⟩)
    (h past) (fun _ _ hc _ _ _ _ hinv hs => hinv.trans (aside_answer hc hs)) (Aside.refl _)
  refine hkept.mono fun s' past' r hr => ?_
  cases r with
  | ok a => exact hr.1
  | error e => exact hr.1

/-- An operation goes on after a part that is aside. -/
theorem Within.ensures_bind {p : Service β} {f : β → Service α} (hp : p.Within Call.isAside)
    (hf : ∀ b s' past', Aside ⟨s, past⟩ ⟨s', past'⟩ → (f b).Ensures ok err s' past')
    (he : ∀ e s' past', Aside ⟨s, past⟩ ⟨s', past'⟩ → err s' past' e) :
    (p >>= f).Ensures ok err s past := by
  rw [Service.ensures_bind]
  exact (within_ensures hp s past).mono (fun s' past' b h => hf b s' past' h)
    fun s' past' e h => he e s' past' h

/-- The workflow takes no part in an operation that is aside. -/
theorem Within.via_local {p : Service α} (hp : p.Within Call.isAside) :
    p.via LocalWorkflow.handle = p := by
  have tree : ∀ (q : Proc (Except ServiceError α)) (past : Past),
      Service.Obeys (ExceptT.mk q) (fun _ c => c.isAside) (fun _ _ => True) (fun _ _ => True) past →
      via LocalWorkflow.handle (ExceptT.mk q) = ExceptT.mk q := by
    intro q
    induction q with
    | done r =>
      intro _ _
      cases r with
      | ok a => rfl
      | error e => rfl
    | step c next ih =>
      intro past h
      rw [via_step, LocalWorkflow.handle_of_isAside h.1]
      exact congrArg (Interaction.step c) (funext fun r => ih r _ (h.2 r))
    | overflow => exact fun _ h => h.elim
  exact tree p.run [] (hp [])

end Service

/-! ## Submissions -/

namespace AccessGroup

/-- The group has one active grant for each of its targets, in their order. -/
structure IsIssued (g : AccessGroup) : Prop where
  inOrder : g.grants.map (·.targetId) = g.targets.map (·.id)
  active : ∀ grant ∈ g.grants, grant.isActive = true

end AccessGroup

namespace Session

/-- All these grants have new ids, which were handed out in this order, and nothing else has happened
to requests and grants. -/
structure Numbered (s s' : Session) (grants : List Grant) : Prop where
  aside : s.Aside s'
  ids : told issued? s'.past = (grants.map (·.id)).reverse ++ told issued? s.past

/-- The request is stored, counted and reported. Its id and those of its grants are new. -/
structure Submitted (s s' : Session) (r : AccessRequest) : Prop where
  requests : s'.store.requests = s.store.requests.insert r.id r
  events : told emitted? s'.past =
    .requestCreated r.id r.requestedBy.id (r.grants.map (·.id)) :: told emitted? s.past
  issued : told issuedCount? s'.past = r.grants.length :: told issuedCount? s.past
  revoked : told revokedCount? s'.past = told revokedCount? s.past
  ids : ∃ before, told issued? s.past <:+ before ∧
    told issued? s'.past = (r.grants.map (·.id)).reverse ++ r.id :: before
  groups : ∀ g ∈ r.groups, g.IsIssued

end Session

namespace LocalWorkflow

open Service

variable {s : MemoryStore} {past : Past}

theorem grantAll_records (group : AccessGroup) (subject : Requester) (start stop : Instant)
    (targets : List Target) :
    (ofResources (grantAll group subject start stop targets)).Ensures
      (fun s' past' grants => Numbered ⟨s, past⟩ ⟨s', past'⟩ grants ∧
        grants.map (·.targetId) = targets.map (·.id) ∧ ∀ grant ∈ grants, grant.isActive = true)
      (fun _ _ _ => False) s past := by
  induction targets generalizing past with
  | nil => exact ⟨⟨.refl _, rfl⟩, rfl, by simp⟩
  | cons target rest ih =>
    rw [grantAll, ofResources_bind, Service.ensures_bind]
    refine ensures_freshId fun id => ?_
    rw [ofResources_bind, Service.ensures_bind]
    refine ih.mono (fun s' past' grants h => ?_) fun _ _ _ => False.elim
    obtain ⟨⟨haside, hids⟩, htargets, hactive⟩ := h
    refine ⟨⟨(aside_freshId s past id).trans haside, ?_⟩, ?_, ?_⟩
    · rw [hids]
      simp [issued?, grantFor]
    · rw [List.map_cons, List.map_cons, htargets]
      rfl
    · intro grant hgrant
      rcases List.mem_cons.mp hgrant with rfl | hgrant
      · rfl
      · exact hactive grant hgrant

theorem grant_records (group : AccessGroup) (subject : Requester) :
    (ofResources (grant group subject)).Ensures
      (fun s' past' answer => ∃ grants, answer = .ok grants ∧ Numbered ⟨s, past⟩ ⟨s', past'⟩ grants ∧
        AccessGroup.IsIssued { group with grants := grants })
      (fun s' past' _ => Aside ⟨s, past⟩ ⟨s', past'⟩) s past := by
  rw [grant, ofResources_bind, Service.ensures_bind]
  refine ensures_now fun start => ?_
  have hnow : Aside ⟨s, past⟩ ⟨s, ⟨.resource .now, some start⟩ :: past⟩ :=
    ⟨rfl, rfl, rfl, rfl, List.suffix_refl _⟩
  rw [ofResources_bind, Service.ensures_bind]
  cases group.duration?.bind start.addSeconds? with
  | none => exact hnow
  | some stop =>
    have hstop : ofResources (Interaction.ofOption (some stop)) = pure stop := rfl
    rw [hstop, ensures_pure, ofResources_bind, Service.ensures_bind]
    refine (grantAll_records group subject start stop group.targets).mono
      (fun s' past' grants h => ?_) fun _ _ _ => False.elim
    obtain ⟨⟨haside, hids⟩, htargets, hactive⟩ := h
    exact ⟨grants, rfl, ⟨hnow.trans haside, hids⟩, htargets, hactive⟩

end LocalWorkflow

namespace Requests

open Service

variable {s : MemoryStore} {past : Past}

theorem grantGroups_records (subject : Requester) (groups : List AccessGroup) :
    ((grantGroups subject groups).via LocalWorkflow.handle).Ensures
      (fun s' past' granted =>
        Numbered ⟨s, past⟩ ⟨s', past'⟩ (granted.flatMap (·.grants)) ∧ ∀ g ∈ granted, g.IsIssued)
      (fun s' past' _ => Aside ⟨s, past⟩ ⟨s', past'⟩) s past := by
  induction groups generalizing s past with
  | nil => exact ⟨⟨.refl _, rfl⟩, by simp⟩
  | cons group rest ih =>
    rw [grantGroups, via_bind, via_call, Service.ensures_bind]
    refine (LocalWorkflow.grant_records group subject).mono (fun s₁ past₁ answer h => ?_)
      fun _ _ _ => id
    obtain ⟨grants, rfl, ⟨haside, hids⟩, hissued⟩ := h
    dsimp only
    rw [via_bind, Service.ensures_bind]
    refine ih.mono (fun s' past' granted h => ?_) fun _ _ _ h => haside.trans h
    obtain ⟨⟨haside', hids'⟩, hgranted⟩ := h
    refine ⟨⟨haside.trans haside', ?_⟩, ?_⟩
    · rw [hids', hids]
      simp
    · intro g hg
      rcases List.mem_cons.mp hg with rfl | hg
      · exact hissued
      · exact hgranted g hg

theorem createRequest_records (policy : GrantPolicy) (user : User) (input : Submission) :
    ((createRequest policy user input).via LocalWorkflow.handle).Ensures
      (fun s' past' r => Submitted ⟨s, past⟩ ⟨s', past'⟩ r)
      (fun s' past' _ => Aside ⟨s, past⟩ ⟨s', past'⟩) s past := by
  have hkeeps := LocalWorkflow.handle_keeps
  simp only [createRequest, via_bind, via_store hkeeps, via_orNotFound]
  refine Within.ensures_bind (within_store rfl) (fun found s₁ past₁ h₁ => ?_) fun _ _ _ h => h
  refine Within.ensures_bind (within_orNotFound _ found) (fun p₀ s₂ past₂ h₂ => ?_)
    fun _ _ _ h => h₁.trans h
  have h₂ := h₁.trans h₂
  split
  · rw [via_bind, via_count hkeeps]
    exact Within.ensures_bind (within_ask rfl) (fun _ _ _ h => h₂.trans h) fun _ _ _ h => h₂.trans h
  simp only [via_bind, via_now hkeeps, via_store hkeeps]
  refine Within.ensures_bind (within_ask rfl) (fun now s₃ past₃ h₃ => ?_) fun _ _ _ h => h₂.trans h
  refine Within.ensures_bind (within_store rfl) (fun claimed s₄ past₄ h₄ => ?_)
    fun _ _ _ h => (h₂.trans h₃).trans h
  have h₄ := (h₂.trans h₃).trans h₄
  cases claimed with
  | none =>
    dsimp only
    rw [via_bind, via_count hkeeps]
    exact Within.ensures_bind (within_ask rfl) (fun _ _ _ h => h₄.trans h) fun _ _ _ h => h₄.trans h
  | some p =>
    dsimp only
    rw [via_bind, via_freshId hkeeps, Service.ensures_bind]
    refine ensures_freshId fun id => ?_
    have hid := h₄.trans (aside_freshId s₄ past₄ id)
    rw [via_bind, Service.ensures_bind]
    refine (grantGroups_records user.requester _).mono (fun s₅ past₅ groups h => ?_)
      fun _ _ _ h => hid.trans h
    obtain ⟨⟨haside, hids⟩, hgroups⟩ := h
    have h₅ := hid.trans haside
    simp only [via_bind, via_store hkeeps, via_count hkeeps, via_emit hkeeps, via_pure,
      Service.ensures_bind]
    refine ensures_store (fun _ _ => ?_) fun e h => by cases h
    refine ensures_count (ensures_count (ensures_emit fun reply => ?_))
    refine ⟨?_, ?_, ?_, ?_, ⟨told issued? past₄, h₄.ids, ?_⟩, hgroups⟩
    · exact congrArg (fun t : Std.ExtTreeMap String AccessRequest => t.insert id _) h₅.requests
    · exact congrArg (_ :: ·) h₅.events
    · exact congrArg₂ (· :: ·) (List.length_map _) h₅.issued
    · exact h₅.revoked
    · exact hids

end Requests

/-! ## Revocations -/

namespace LocalWorkflow

/-- The grants that the workflow has revoked. -/
def revokedIn (verdict : Except WorkflowError (List Grant)) : List Grant :=
  verdict.toOption.getD []

end LocalWorkflow

open LocalWorkflow (revokedIn)

namespace Session

/-- A stored request is settled at a time. What the workflow revoked is counted, and reported grant by
grant. -/
structure Settled (s s' : Session) (o : Revocation) (r : AccessRequest) (t : Instant)
    (verdict : Except WorkflowError (List Grant)) : Prop where
  stored : s.store.requests[o.id]? = some r
  answered : verdict = LocalWorkflow.revoke (r.expireElapsed t).1 o.actor.id
  requests : s'.store.requests = s.store.requests.insert r.id (r.outcome t verdict)
  events : told emitted? s'.past = (o.reports r (revokedIn verdict)).reverse ++ told emitted? s.past
  issued : told issuedCount? s'.past = told issuedCount? s.past
  revoked : (told revokedCount? s'.past).sum =
    (revokedIn verdict).length + (told revokedCount? s.past).sum
  ids : told issued? s.past <:+ told issued? s'.past

end Session

namespace Requests

open Service

variable {s : MemoryStore} {past : Past}

theorem visibleRequest_shows (user : User) (id : String) :
    (visibleRequest user id).Ensures
      (fun s' past' r => Aside ⟨s, past⟩ ⟨s', past'⟩ ∧ s.requests[id]? = some r)
      (fun s' past' _ => Aside ⟨s, past⟩ ⟨s', past'⟩) s past := by
  rw [visibleRequest, Service.ensures_bind]
  refine ensures_store (fun found hfound => ?_) fun e h => by cases h
  cases hfound
  have h₁ : Aside ⟨s, past⟩ ⟨s, ⟨.resource (.store (.getRequest id)), some (.ok s.requests[id]?)⟩ :: past⟩ :=
    ⟨rfl, rfl, rfl, rfl, List.suffix_refl _⟩
  rw [Service.ensures_bind, ensures_orNotFound]
  refine ⟨fun r hr => ?_, fun _ => h₁⟩
  have hadmin : (call (.isAdmin user)).Within Call.isAside := within_call rfl
  have hreviewer : (call (.isReviewer user r)).Within Call.isAside := within_call rfl
  split
  · exact ⟨h₁, hr⟩
  refine hadmin.ensures_bind (fun answer s₂ past₂ h₂ => ?_) fun _ _ _ h => h₁.trans h
  have h₂ := h₁.trans h₂
  refine Within.ensures_bind (within_verdict answer) (fun admin s₃ past₃ h₃ => ?_) fun _ _ _ h => h₂.trans h
  have h₃ := h₂.trans h₃
  split
  · exact ⟨h₃, hr⟩
  refine hreviewer.ensures_bind (fun answer s₄ past₄ h₄ => ?_) fun _ _ _ h => h₃.trans h
  have h₄ := h₃.trans h₄
  refine Within.ensures_bind (within_verdict answer) (fun reviewer s₅ past₅ h₅ => ?_) fun _ _ _ h => h₄.trans h
  split
  · exact ⟨h₄.trans h₅, hr⟩
  · exact h₄.trans h₅

/-- One event for each grant, in their order. -/
theorem emitRevoked_records (requestId actorId : String) (grants : List Grant) :
    (emitRevoked requestId actorId grants).Ensures
      (fun s' past' _ => s' = s ∧
        told emitted? past' = (grants.map fun g => AccessEvent.grantRevoked requestId g.id actorId).reverse ++
          told emitted? past ∧
        told issuedCount? past' = told issuedCount? past ∧
        told revokedCount? past' = told revokedCount? past ∧ told issued? past' = told issued? past)
      (fun _ _ _ => False) s past := by
  induction grants generalizing past with
  | nil => exact ⟨rfl, rfl, rfl, rfl, rfl⟩
  | cons grant rest ih =>
    rw [emitRevoked, Service.ensures_bind]
    refine ensures_emit fun reply => ih.mono (fun s' past' _ h => ?_) fun _ _ _ => id
    obtain ⟨hs, hevents, hissued, hrevoked, hids⟩ := h
    refine ⟨hs, ?_, hissued, hrevoked, hids⟩
    rw [hevents]
    simp [emitted?]

theorem emitRevoked_via_local (requestId actorId : String) (grants : List Grant) :
    (emitRevoked requestId actorId grants).via LocalWorkflow.handle =
      emitRevoked requestId actorId grants := by
  induction grants with
  | nil => rfl
  | cons grant rest ih => rw [emitRevoked, via_bind, via_emit LocalWorkflow.handle_keeps, ih]

theorem revokeRequest_records (actor : User) (id : String) :
    ((revokeRequest actor id).via LocalWorkflow.handle).Ensures
      (fun s' past' _ => ∃ r t revoked, Settled ⟨s, past⟩ ⟨s', past'⟩ ⟨actor, id⟩ r t (.ok revoked))
      (fun s' past' _ => Aside ⟨s, past⟩ ⟨s', past'⟩ ∨
        ∃ r t e, Settled ⟨s, past⟩ ⟨s', past'⟩ ⟨actor, id⟩ r t (.error e)) s past := by
  have hkeeps := LocalWorkflow.handle_keeps
  have hvisible := (visibleRequest_plain actor id).mono Call.isAside_of_isPlain
  simp only [revokeRequest, via_bind, hvisible.via_local, via_now hkeeps]
  rw [Service.ensures_bind]
  refine (visibleRequest_shows actor id).mono (fun s₁ past₁ r h => ?_) fun _ _ _ h => .inl h
  obtain ⟨h₁, hr⟩ := h
  refine Within.ensures_bind (within_ask rfl) (fun t s₂ past₂ h₂ => ?_) fun _ _ _ h => .inl (h₁.trans h)
  have h₂ := h₁.trans h₂
  rw [via_call, Service.ensures_bind]
  show Service.Ensures (pure (LocalWorkflow.revoke (r.expireElapsed t).1 actor.id)) _ _ _ _
  rw [ensures_pure]
  cases hv : LocalWorkflow.revoke (r.expireElapsed t).1 actor.id with
  | error e =>
    dsimp only
    split
    · rw [via_bind, via_store hkeeps, Service.ensures_bind]
      refine ensures_store (fun _ _ => ?_) fun e h => by cases h
      refine .inr ⟨r, t, e, hr, hv.symm, ?_, h₂.events, h₂.issued, ?_, h₂.ids⟩
      · rw [← (r.outcome_sameAs t (.error e)).1]
        exact congrArg (fun m : Std.ExtTreeMap String AccessRequest => m.insert _ _) h₂.requests
      · rw [revokedIn, Except.toOption, Option.getD_none, List.length_nil, Nat.zero_add]
        exact congrArg List.sum h₂.revoked
    · exact .inl h₂
  | ok revoked =>
    simp only [via_bind, via_store hkeeps, via_count hkeeps, via_pure, emitRevoked_via_local,
      Service.ensures_bind]
    refine ensures_store (fun _ _ => ?_) fun e h => by cases h
    refine ensures_count ((emitRevoked_records _ _ _).mono (fun s' past' _ h => ?_)
      fun _ _ _ => False.elim)
    obtain ⟨rfl, hevents, hissued, hrevoked, hids⟩ := h
    have hid : (r.outcome t (.ok revoked)).id = r.id := (r.outcome_sameAs t _).1
    refine ⟨r, t, revoked, hr, hv.symm, ?_, ?_, hissued.trans h₂.issued, ?_, ?_⟩
    · rw [← hid]
      exact congrArg (fun m : Std.ExtTreeMap String AccessRequest => m.insert _ _) h₂.requests
    · rw [Revocation.reports, ← hid]
      exact hevents.trans (congrArg (_ ++ ·) h₂.events)
    · rw [hrevoked]
      exact congrArg (fun l => revoked.length + List.sum l) h₂.revoked
    · rw [hids]
      exact h₂.ids

end Requests

end AccessGrants
