import AccessGrants.Proofs.Preflights.Ownership
import AccessGrants.Proofs.Requests.Shape
import AccessGrants.Proofs.Requests.Steadiness

/-!
# AccessGrants.Proofs.Requests.WellFormed

Every stored request fits the preflight that was consumed for it, however the operations are
interleaved, with the workflow that only records grants.

* `Backed`          — the request fits a preflight that some task has claimed.
* `RequestsBacked`  — so does whatever is stored or was read. A revocation may write back a version
                      that it has read long ago; that one fits as well as the one it overwrites.
* `Filled`          — stored preflights have no empty groups.
* `run_well_formed` — what follows for every run from an empty store.
-/

namespace AccessGrants

open Exchange Interaction

/-- The preflight of the request is that of its requester and was consumed when the request was
made; the groups are those of the preflight, none of them is empty, and the reviewers are those of
their targets. -/
structure AccessRequest.WellFormed (r : AccessRequest) (policy : GrantPolicy) (s : MemoryStore) :
    Prop where
  preflight : ∃ p, s.preflights[r.preflightId]? = some p ∧ p.userId = r.requestedBy.id ∧
    p.consumedAt = some r.createdAt ∧
    List.Forall₂ (fun g q => g.Fits policy r q) r.groups p.accessGroups
  targets : ∀ g ∈ r.groups, g.targets ≠ []
  reviewers : ∀ name, name ∈ r.reviewers ↔ ∃ g ∈ r.groups, ∃ t ∈ g.targets, name ∈ t.reviewers

/-! ## The rules of these services -/

namespace Operation

theorem issueRule_not_drafted {policy : GrantPolicy} {user : User} {input : Submission}
    {past : Past} (h : Kept (issueRule policy user input) past) : told drafted? past = [] := by
  induction past with
  | nil => rfl
  | cons e past ih =>
    obtain ⟨c, reply⟩ := e
    have hnone : drafted? ⟨c, reply⟩ = none := by
      cases c with
      | resource c =>
        cases c with
        | store c => cases c <;> first | rfl | cases h.1
        | _ => rfl
      | _ => rfl
    rw [told_cons, hnone]
    exact ih h.2

theorem recordedRule_cases (rules : ServiceRules) (o : Operation) :
    (∃ user ids, o = .createPreflight user ids) ∨ (∃ user input, o = .createRequest user input) ∨
      o.recordedRule rules = o.rule rules := by
  cases o with
  | createPreflight user ids => exact .inl ⟨user, ids, rfl⟩
  | createRequest user input => exact .inr (.inl ⟨user, input, rfl⟩)
  | _ => exact .inr (.inr rfl)

theorem recordedRule_keepsPreflights (rules : ServiceRules) :
    Pool.KeepsPreflights (recordedRule rules) where
  drafted := by
    intro o past p h hp
    rcases recordedRule_cases rules o with ⟨user, ids, rfl⟩ | ⟨user, input, rfl⟩ | hrule
    · have hdraft : Kept ((createPreflight user ids).rule rules) past := h.mono fun _ _ hc => hc.1
      exact kept_drafted hdraft hp
    · rw [issueRule_not_drafted h] at hp
      cases hp
    · rw [hrule] at h
      exact kept_drafted h hp
  claim := by
    intro o past id userId t h
    rcases recordedRule_cases rules o with ⟨user, ids, rfl⟩ | ⟨user, input, rfl⟩ | hrule
    · cases h.1
    · exact ⟨user, input, rfl, h.2⟩
    · rw [hrule] at h
      exact Pool.rule_claim h

theorem recordedRule_put {rules : ServiceRules} {o : Operation} {past : Past} {q : AccessRequest}
    (h : o.recordedRule rules past (.resource (.store (.putRequest q)))) :
    (∃ user input, o = .createRequest user input ∧
      issueRule rules.policy user input past (.resource (.store (.putRequest q)))) ∨
    ∃ (v : Revocation) (r : AccessRequest) (t : Instant) (verdict : Except WorkflowError (List Grant)),
      v.Decided past r t verdict ∧ q = r.outcome t verdict := by
  cases o with
  | createPreflight user ids => cases h.1
  | createRequest user input => exact .inl ⟨user, input, rfl, h⟩
  | revokeRequest actor id =>
    obtain ⟨-, r, t, verdict, hd, hq⟩ := h
    exact .inr ⟨⟨actor, id⟩, r, t, verdict, hd, hq⟩
  | _ => cases h

theorem recordedRule_draft {rules : ServiceRules} {o : Operation} {past : Past} {p : Preflight}
    (h : o.recordedRule rules past (.resource (.store (.putPreflight p)))) :
    ∀ g ∈ p.accessGroups, g.targets ≠ [] := by
  cases o with
  | createPreflight user ids => exact h.2
  | _ => cases h

end Operation

namespace Exchange

theorem claim?_eq_some {e : Exchange Call.Reply} {a : Preflight × Instant} (h : claim? e = some a) :
    claimed? e = some a.1 ∧
      ∃ id userId, e.call = .resource (.store (.claimPreflight id userId a.2)) := by
  unfold claim? at h
  split at h
  · obtain ⟨p, rfl, rfl⟩ := Option.map_eq_some_iff.mp h
    exact ⟨rfl, _, _, rfl⟩
  · cases h

end Exchange

theorem claimed_of_claim {past : Past} {a : Preflight × Instant} (h : a ∈ told claim? past) :
    a.1 ∈ told claimed? past := by
  obtain ⟨e, he, hc⟩ := List.mem_filterMap.mp h
  exact List.mem_filterMap.mpr ⟨e, he, (claim?_eq_some hc).1⟩

theorem claim_consumed {x : Surroundings} {w w' : World} {c : Call} {r : c.Reply}
    (h : w.perform x c = some (r, w')) {a : Preflight × Instant}
    (ha : claim? ⟨c, some r⟩ = some a) : a.1.consumedAt = some a.2 := by
  obtain ⟨hclaimed, id, userId, rfl⟩ := claim?_eq_some ha
  rcases World.perform_preflights h with ⟨-, -, hn⟩ | ⟨p, hput, -⟩ |
    ⟨id', u, t, p, hcall, -, -, -, -, -, hc⟩
  · rw [hn] at hclaimed
    cases hclaimed
  · cases hput
  · cases hcall
    rw [hc] at hclaimed
    rw [← Option.some.inj hclaimed]

/-! ## What holds along every trace -/

namespace Pool

section Recorded

variable {rules : ServiceRules} {w₀ w w' : World} {log : List (recorded rules).Entry}

/-- Some task has claimed a preflight that the request fits. -/
def Backed (log : List (recorded rules).Entry) (r : AccessRequest) : Prop :=
  ∃ i, ∃ p ∈ told claimed? (past log i), r.Fits rules.policy p

theorem Backed.cons {r : AccessRequest} (h : Backed log r) (e : (recorded rules).Entry) :
    Backed (e :: log) r := by
  obtain ⟨i, p, hp, hfits⟩ := h
  exact ⟨i, p, mem_told_past_cons.mpr (.inr hp), hfits⟩

/-- A preflight is consumed at the time that it was claimed for, the workflow decides as the one that
only records grants, and whatever is stored or was read is backed. -/
structure RequestsBacked (s : MemoryStore) (log : List (recorded rules).Entry) : Prop where
  claims : ∀ i, ∀ c ∈ told claim? (past log i), c.1.consumedAt = some c.2
  verdicts : ∀ i, ∀ d ∈ told decided? (past log i), d.2.2 = LocalWorkflow.revoke d.1 d.2.1
  stored : ∀ (k : String) (r : AccessRequest), s.requests[k]? = some r → r.id = k ∧ Backed log r
  read : ∀ i, ∀ r ∈ told read? (past log i), Backed log r

/-- A new entry that stores no request keeps things so when it tells nothing wrong and what it has
read was stored. -/
theorem RequestsBacked.cons_none {s s' : MemoryStore} (h : RequestsBacked s log) {i : Nat}
    {o : Operation} {ex : Exchange Call.Reply} (hs : s'.requests = s.requests)
    (hc : ∀ c, claim? ex = some c → c.1.consumedAt = some c.2)
    (hv : ∀ d, decided? ex = some d → d.2.2 = LocalWorkflow.revoke d.1 d.2.1)
    (hr : ∀ r, read? ex = some r → ∃ k : String, s.requests[k]? = some r) :
    RequestsBacked s' (⟨i, o, ex⟩ :: log) := by
  constructor
  · intro j c hj
    rcases mem_told_past_cons.mp hj with ⟨-, hj⟩ | hj
    · exact hc c hj
    · exact h.claims j c hj
  · intro j d hj
    rcases mem_told_past_cons.mp hj with ⟨-, hj⟩ | hj
    · exact hv d hj
    · exact h.verdicts j d hj
  · intro k r hk
    rw [hs] at hk
    exact ⟨(h.stored k r hk).1, (h.stored k r hk).2.cons _⟩
  · intro j r hj
    rcases mem_told_past_cons.mp hj with ⟨-, hj⟩ | hj
    · obtain ⟨k, hk⟩ := hr r hj
      exact (h.stored k r hk).2.cons _
    · exact (h.read j r hj).cons _

theorem RequestsBacked.cons_stored {s s' : MemoryStore} (h : RequestsBacked s log) {i : Nat}
    {o : Operation} {q : AccessRequest} {reply : Option (Except StoreError Unit)}
    (hq : Backed log q) (hs : s'.requests = s.requests.insert q.id q) :
    RequestsBacked s' (⟨i, o, .resource (.store (.putRequest q)), reply⟩ :: log) := by
  constructor
  · intro j c hj
    rcases mem_told_past_cons.mp hj with ⟨-, hj⟩ | hj
    · cases hj
    · exact h.claims j c hj
  · intro j d hj
    rcases mem_told_past_cons.mp hj with ⟨-, hj⟩ | hj
    · cases hj
    · exact h.verdicts j d hj
  · intro k r hk
    rw [hs, MemoryStore.getElem?_insert_row] at hk
    split at hk
    · rename_i hid
      cases hk
      exact ⟨hid, hq.cons _⟩
    · exact ⟨(h.stored k r hk).1, (h.stored k r hk).2.cons _⟩
  · intro j r hj
    rcases mem_told_past_cons.mp hj with ⟨-, hj⟩ | hj
    · cases hj
    · exact (h.read j r hj).cons _

/-- What is stored next is backed: a submission has claimed the preflight that it issues from, and a
revocation writes the outcome of a version that was read. -/
theorem RequestsBacked.next (hp : rules.policy.validate = .ok ()) {s : MemoryStore}
    (h : RequestsBacked s log) (hids : IdsOwned w log) (hown : PreflightsOwned s log) {i : Nat}
    {o : Operation} (ho : ∀ e ∈ log, e.task = i → e.op = o) {q : AccessRequest}
    (hrule : o.recordedRule rules (past log i) (.resource (.store (.putRequest q)))) :
    Backed log q := by
  rcases Operation.recordedRule_put hrule with ⟨user, input, rfl, p, hclaim, hissued, hnew⟩ |
    ⟨v, r, t, verdict, hd, rfl⟩
  · have hmem : (p, q.createdAt) ∈ told claim? (past log i) := by
      rw [hclaim]
      exact List.mem_cons_self
    have hclaimed : p ∈ told claimed? (past log i) := claimed_of_claim hmem
    obtain ⟨-, -, user', input', ⟨e, he, hei, hop⟩, hu⟩ := hown.claimed i p hclaimed
    have hsame := (hop.symm.trans (ho e he hei))
    cases hsame
    have hnodup : (q.grants.map (·.id)).Nodup := by
      have honce := hids.once i
      rw [hnew] at honce
      exact List.nodup_reverse.mp (List.nodup_append.mp honce).1
    exact ⟨i, p, hclaimed, hissued.fits hp hu (h.claims i _ hmem) hnodup⟩
  · obtain ⟨j, p, hclaimed, hfits⟩ := h.read i r hd.mem_read
    have hlocal : verdict = LocalWorkflow.revoke (r.expireElapsed t).1 v.actor.id :=
      h.verdicts i ((r.expireElapsed t).1, v.actor.id, verdict)
        (by rw [hd.2.2]; exact List.mem_cons_self)
    rw [hlocal]
    exact ⟨j, p, hclaimed, hfits.outcome⟩

theorem Trace.requestsBacked (hp : rules.policy.validate = .ok ()) (h₀ : w₀.store = .empty pageSize)
    (h : Trace (S := recorded rules) (Operation.recordedRule rules) w₀ w log) :
    RequestsBacked w.store log := by
  induction h with
  | init => exact ⟨by simp, by simp, by simp [h₀, MemoryStore.empty], by simp⟩
  | clock t _ ih => exact ih
  | answered ht ho hrule hw ih =>
    rcases World.perform_requests hw with ⟨q, rfl, hs, -, -⟩ | ⟨hs, -, hr⟩
    · have hown := ht.preflightsOwned_of (Operation.recordedRule_keepsPreflights rules)
        (by rw [h₀]; rfl)
      exact ih.cons_stored (ih.next hp ht.idsOwned hown ho hrule) hs
    · exact ih.cons_none hs (fun c hc => claim_consumed hw hc) (fun d hd => decided_local hw hd) hr
  | lost _ _ _ ih =>
    refine ih.cons_none rfl (fun c hc => ?_) (fun d hd => ?_) fun r hr => ?_
    · obtain ⟨hclaimed, -⟩ := claim?_eq_some hc
      rw [told_lost.2.2.1] at hclaimed
      cases hclaimed
    · rw [decided_lost] at hd
      cases hd
    · rw [told_lost.2.2.2.2] at hr
      cases hr

/-- No stored preflight has an empty group. -/
def Filled (s : MemoryStore) : Prop :=
  ∀ (k : String) (p : Preflight), s.preflights[k]? = some p → ∀ g ∈ p.accessGroups, g.targets ≠ []

theorem Filled.insert {s s' : MemoryStore} (h : Filled s) {k : String} {p : Preflight}
    (hp : ∀ g ∈ p.accessGroups, g.targets ≠ []) (hs : s'.preflights = s.preflights.insert k p) :
    Filled s' := by
  intro k' q hq
  rw [hs, MemoryStore.getElem?_insert_row] at hq
  split at hq
  · cases hq
    exact hp
  · exact h k' q hq

theorem Trace.filled (h₀ : w₀.store = .empty pageSize)
    (h : Trace (S := recorded rules) (Operation.recordedRule rules) w₀ w log) : Filled w.store := by
  induction h with
  | init => simp [Filled, h₀, MemoryStore.empty]
  | clock t _ ih => exact ih
  | answered _ _ hrule hw ih =>
    rcases World.perform_preflights hw with ⟨hs, -⟩ | ⟨p, rfl, hs, -⟩ |
      ⟨id, u, t, p, -, hp, -, -, hs, -⟩
    · intro k p hk
      rw [hs] at hk
      exact ih k p hk
    · exact ih.insert (Operation.recordedRule_draft hrule) hs
    · exact ih.insert (p := { p with consumedAt := some t }) (ih id p hp) hs
  | lost _ _ _ ih => exact ih

end Recorded

/-- With an accepted policy and the workflow that only records grants: however operations are
interleaved over an empty store, every stored request is well formed. -/
theorem run_well_formed (rules : ServiceRules) (hp : rules.policy.validate = .ok ())
    (pageSize : Nat) (clock : Instant) (moves : List (recorded rules).Move) :
    let s := (run (World.fresh pageSize clock) moves).world.store
    ∀ (k : String) (r : AccessRequest), s.requests[k]? = some r →
      r.id = k ∧ r.WellFormed rules.policy s := by
  intro s k r hr
  have trace := (recorded_keep rules (World.fresh pageSize clock) moves).trace
  have h₀ : (World.fresh pageSize clock).store = .empty pageSize := rfl
  obtain ⟨hk, i, p, hclaimed, hfits⟩ := (trace.requestsBacked hp h₀).stored k r hr
  have hown := trace.preflightsOwned_of (Operation.recordedRule_keepsPreflights rules)
    (by rw [h₀]; rfl)
  obtain ⟨hst, -⟩ := hown.claimed i p hclaimed
  refine ⟨hk, ⟨p, ?_, hfits.owner.symm, hfits.created, hfits.groups⟩, ?_, ?_⟩
  · rw [hfits.preflight]
    exact hst
  · intro g hg
    have hmem : g.targets ∈ p.accessGroups.map (·.targets) := by
      rw [← hfits.targets_eq]
      exact List.mem_map_of_mem hg
    obtain ⟨q, hq, htargets⟩ := List.mem_map.mp hmem
    rw [← htargets]
    exact trace.filled h₀ p.id p hst q hq
  · intro name
    rw [hfits.reviewers]
    exact Requests.mem_reviewersOf

namespace Lapse

def rules : ServiceRules := ⟨.deferred, .standard⟩

def alice : User := ⟨"alice", "alice@acme.com", {"eng"}⟩

/-- Calls of a task, where everyone may request and each call is offered an id of its own. -/
def calls (task first n : Nat) : List (recorded rules).Move :=
  (List.range n).map fun k => .proceed task { Surroundings.plain with
    id := toString (first + k)
    mayRequest := fun _ _ => .ok true }

/-- Two targets are granted for a minute and for an hour, and revoked after two minutes. -/
def moves : List (recorded rules).Move :=
  .start (Operation.putTarget ⟨"t", "g", "brief", ∅, {"eng"}, {"bob"}⟩) :: calls 0 0 1 ++
  .start (Operation.putTarget ⟨"u", "g", "long", ∅, {"eng"}, {"carol"}⟩) :: calls 1 0 1 ++
  .start (Operation.createPreflight alice ["t", "u"]) :: calls 2 10 10 ++
  .start (Operation.createRequest alice ⟨"17", none, [⟨"15", some 60⟩]⟩) :: calls 3 20 13 ++
  .clock ⟨120, 0⟩ :: .start (Operation.revokeRequest alice "23") :: calls 4 40 8

theorem lapsed_and_revoked :
    let s := (run (World.fresh 50 ⟨0, 0⟩) moves).world.store
    rules.policy.validate = .ok () ∧
      (s.requests["23"]?.map fun r => r.grants.map (·.status)) = some [.expired, .revoked] ∧
      ∀ (k : String) (r : AccessRequest), s.requests[k]? = some r →
        r.id = k ∧ r.WellFormed rules.policy s :=
  ⟨rfl, by decide +kernel, run_well_formed rules rfl 50 ⟨0, 0⟩ moves⟩

end Lapse

end Pool

end AccessGrants
