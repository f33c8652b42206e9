import AccessGrants.Proofs.Requests.Effects
import AccessGrants.Proofs.Requests.Revocations

/-!
# AccessGrants.Proofs.Requests.Steadiness

Revocations side by side, as long as none of them writes a settled grant again. A revocation writes
back the whole request that it has read, so what it writes is right only if nothing was settled in
between.

* `Shaped`   — what is stored has the grants of what was read, whatever is written.
* `Revokes`  — a task has written a request in which it has revoked a grant.
* `Steady`   — final grants are as they were read, and each revoked one is the work of one task.
* `Timely`   — what a write has to find for things to stay so.
* `cons_same`, `cons_written` — they stay so along calls that write nothing, and along such writes.
-/

namespace AccessGrants

open Exchange

namespace MemoryStore

/-- The stored copy of a grant. -/
def grantAt (s : MemoryStore) (requestId id : String) : Option Grant :=
  s.requests[requestId]?.bind (·.grant? id)

/-- Requests are stored under their ids, and the grants of a request have distinct ids. -/
def Sound (s : MemoryStore) : Prop :=
  ∀ (k : String) (r : AccessRequest), s.requests[k]? = some r →
    r.id = k ∧ (r.grants.map (·.id)).Nodup

end MemoryStore

theorem AccessRequest.outcome_id (r : AccessRequest) (t : Instant)
    (v : Except WorkflowError (List Grant)) : (r.outcome t v).id = r.id :=
  (r.outcome_sameAs t v).1

namespace Pool

variable {w₀ w : World} {log : List revocations.Entry}

/-! ## The shape of what is stored -/

/-- What a revocation has read is stored with the same grants, and the workflow decides as the one
that only records grants. -/
structure Shaped (s : MemoryStore) (log : List revocations.Entry) : Prop where
  sound : s.Sound
  reads : ∀ i, ∀ r ∈ told read? (past log i), ∃ r', s.requests[r.id]? = some r' ∧
    r'.grants.map (·.id) = r.grants.map (·.id)
  verdicts : ∀ i, ∀ d ∈ told decided? (past log i), d.2.2 = LocalWorkflow.revoke d.1 d.2.1

theorem Shaped.written {s : MemoryStore} (h : Shaped s log) {i : Nat} {o : Revocation}
    {r : AccessRequest} {t : Instant} {v : Except WorkflowError (List Grant)}
    (hd : o.Decided (past log i) r t v) :
    (r.grants.map (·.id)).Nodup ∧ v = LocalWorkflow.revoke (r.expireElapsed t).1 o.actor.id ∧
      (r.outcome t v).grants = r.grants.map (·.settle o.actor.id t) := by
  obtain ⟨r', hr', hids⟩ := h.reads i r hd.mem_read
  have hn := (h.sound _ _ hr').2
  rw [hids] at hn
  have hverdict : v = LocalWorkflow.revoke (r.expireElapsed t).1 o.actor.id :=
    h.verdicts i ((r.expireElapsed t).1, o.actor.id, v) (by rw [hd.2.2]; exact List.mem_cons_self)
  exact ⟨hn, hverdict, by rw [hverdict]; exact AccessRequest.outcome_grants hn⟩

theorem decided_local {x : Surroundings} {w w' : World} {c : Call} {r : c.Reply}
    (h : w.perform (revocations.view x) c = some (r, w'))
    {d : AccessRequest × String × Except WorkflowError (List Grant)}
    (hd : decided? ⟨c, some r⟩ = some d) : d.2.2 = LocalWorkflow.revoke d.1 d.2.1 := by
  cases c with
  | revoke q a e =>
    cases h
    cases hd
    rfl
  | _ => cases hd

theorem decided_lost {c : Call} : decided? ⟨c, none⟩ = none := by
  cases c <;> rfl

variable {s s' : MemoryStore} {i : Nat} {o : Revocation} {ex : Exchange Call.Reply}

theorem Shaped.cons_none (h : Shaped s log) (hs : s'.requests = s.requests)
    (hr : ∀ r, read? ex = some r → ∃ k : String, s.requests[k]? = some r)
    (hv : ∀ d, decided? ex = some d → d.2.2 = LocalWorkflow.revoke d.1 d.2.1) :
    Shaped s' (⟨i, o, ex⟩ :: log) := by
  constructor
  · intro k r hk
    rw [hs] at hk
    exact h.sound k r hk
  · intro j r hj
    rw [mem_told_past_cons] at hj
    rw [hs]
    rcases hj with ⟨-, hj⟩ | hj
    · obtain ⟨k, hk⟩ := hr r hj
      rw [(h.sound k r hk).1]
      exact ⟨r, hk, rfl⟩
    · exact h.reads j r hj
  · intro j d hd
    rw [mem_told_past_cons] at hd
    rcases hd with ⟨-, hd⟩ | hd
    · exact hv d hd
    · exact h.verdicts j d hd

theorem Shaped.cons_written (h : Shaped s log) {r : AccessRequest} {t : Instant}
    {v : Except WorkflowError (List Grant)} (hd : o.Decided (past log i) r t v)
    (hs : s'.requests = s.requests.insert r.id (r.outcome t v)) (hr : read? ex = none)
    (hv : decided? ex = none) : Shaped s' (⟨i, o, ex⟩ :: log) := by
  obtain ⟨hn, -, hgrants⟩ := h.written hd
  have hids : (r.outcome t v).grants.map (·.id) = r.grants.map (·.id) := by
    rw [hgrants, List.map_map]
    simp [Function.comp_def]
  constructor
  · intro k q hk
    rw [hs, MemoryStore.getElem?_insert_row] at hk
    split at hk
    · rename_i hk'
      cases hk
      exact ⟨(r.outcome_id t v).trans hk', by rw [hids]; exact hn⟩
    · exact h.sound k q hk
  · intro j q hj
    rw [mem_told_past_cons, hr] at hj
    have hj : q ∈ told read? (past log j) := by simpa using hj
    obtain ⟨q', hq', hsame⟩ := h.reads j q hj
    rw [hs, MemoryStore.getElem?_insert_row]
    split
    · -- both copies were read of one request, whose grants keep their ids
      rename_i hk
      obtain ⟨r', hr', hsame'⟩ := h.reads i r hd.mem_read
      rw [hk, hq'] at hr'
      cases hr'
      exact ⟨_, rfl, hids.trans (hsame'.symm.trans hsame)⟩
    · exact ⟨q', hq', hsame⟩
  · intro j d hd
    rw [mem_told_past_cons, hv] at hd
    exact h.verdicts j d (by simpa using hd)

theorem rule_write {past : Past} {q : AccessRequest}
    (h : o.rule past (.resource (.store (.putRequest q)))) :
    told stored? past = [] ∧ ∃ r t v, o.Decided past r t v ∧ q = r.outcome t v :=
  h

theorem Trace.shaped (h₀ : w₀.store.Sound)
    (h : Trace (S := revocations) Revocation.rule w₀ w log) : Shaped w.store log := by
  induction h with
  | init => exact ⟨h₀, by simp, by simp⟩
  | clock t _ ih => exact ih
  | answered _ _ hrule hw ih =>
    rcases World.perform_requests hw with ⟨q, rfl, hs, -, hrd⟩ | ⟨hs, -, hrd⟩
    · obtain ⟨-, r, t, v, hd, rfl⟩ := rule_write hrule
      rw [r.outcome_id] at hs
      exact ih.cons_written hd hs hrd rfl
    · exact ih.cons_none hs hrd fun d hd => decided_local hw hd
  | lost _ _ _ ih =>
    refine ih.cons_none rfl (fun r hr => ?_) fun d hd => ?_
    · rw [told_lost.2.2.2.2] at hr
      cases hr
    · rw [decided_lost] at hd
      cases hd

/-! ## Who has revoked a grant -/

/-- The task has written its outcome, in which the grant is revoked. -/
def Revokes (log : List revocations.Entry) (i : Nat) (requestId id : String) : Prop :=
  ∃ (o : Revocation) (r : AccessRequest) (t : Instant) (v : Except WorkflowError (List Grant))
    (seen : Grant), Runs log i o ∧ o.Decided (past log i) r t v ∧ told stored? (past log i) ≠ [] ∧
    r.id = requestId ∧ r.grant? id = some seen ∧ seen.isActive = true ∧
    (seen.settle o.actor.id t).status = .revoked

/-- A call that its task may make, for an operation that the task has had before. -/
structure Allowed (log : List revocations.Entry) (i : Nat) (o : Revocation) (c : Call) : Prop where
  rule : o.rule (past log i) c
  same : ∀ e ∈ log, e.task = i → e.op = o
  kept : Interaction.Kept o.rule (past log i)

theorem Revokes.cons {c : Call} {reply : Option c.Reply} {j : Nat} {k id : String}
    (h : Revokes log j k id) (hc : Allowed log i o c) :
    Revokes (⟨i, o, c, reply⟩ :: log) j k id := by
  obtain ⟨o', r, t, v, seen, hruns, hd, hst, hk, hseen, hact, hrev⟩ := h
  refine ⟨o', r, t, v, seen, hruns.cons _, ?_, ?_, hk, hseen, hact, hrev⟩
  · by_cases hij : i = j
    · subst hij
      obtain ⟨e, he, hei, rfl⟩ := hruns
      obtain rfl := hc.same e he hei
      rw [past_cons_self]
      exact hd.cons hc.rule reply
    · rw [past_cons_ne hij]
      exact hd
  · intro hnil
    rw [told_past_cons] at hnil
    split at hnil
    · exact hst (List.append_eq_nil_iff.mp hnil).2
    · exact hst hnil

theorem Revokes.of_cons {c : Call} {reply : Option c.Reply} {j : Nat} {k id : String}
    (h : Revokes (⟨i, o, c, reply⟩ :: log) j k id) (hc : Allowed log i o c)
    (hst : stored? ⟨c, reply⟩ = none) : Revokes log j k id := by
  obtain ⟨o', r, t, v, seen, ⟨e, he, hei, rfl⟩, hd, hne, hk, hseen, hact, hrev⟩ := h
  by_cases hij : i = j
  · subst hij
    have hop : e.op = o := by
      rcases List.mem_cons.mp he with rfl | he
      · rfl
      · exact hc.same e he hei
    rw [hop] at hd hrev
    rw [told_past_cons, if_pos rfl, hst] at hne
    have hne : told stored? (past log i) ≠ [] := hne
    obtain ⟨q, hq⟩ := List.exists_mem_of_ne_nil _ hne
    obtain ⟨_, e', he', hei', -⟩ := runs_of_told hq
    rcases (Revocation.Progress.of_kept hc.kept).stored with hnil | ⟨r', t', v', hd', -⟩
    · exact absurd hnil hne
    · rw [past_cons_self] at hd
      obtain ⟨rfl, rfl, rfl⟩ := (hd'.cons hc.rule reply).unique hd
      exact ⟨o, _, _, _, seen, ⟨e', he', hei', hc.same e' he' hei'⟩, hd', hne, hk, hseen, hact, hrev⟩
  · rw [past_cons_ne hij] at hd hne
    rcases List.mem_cons.mp he with rfl | he
    · exact absurd hei hij
    · exact ⟨e.op, r, t, v, seen, ⟨e, he, hei, rfl⟩, hd, hne, hk, hseen, hact, hrev⟩

/-! ## Before a move that overtakes -/

/-- What holds as long as no move overtakes: what was read as final is still so, a grant keeps its
revoker until it is revoked, and a grant that was revoked since it was read was revoked by one task,
which has written it. -/
structure Steady (s : MemoryStore) (log : List revocations.Entry) : Prop where
  final : ∀ i, ∀ r ∈ told read? (past log i), ∀ id seen, r.grant? id = some seen →
    seen.isActive = false → ∃ g, s.grantAt r.id id = some g ∧ g.status = seen.status ∧
      g.revokedBy = seen.revokedBy
  revoker : ∀ i, ∀ r ∈ told read? (past log i), ∀ id seen g, r.grant? id = some seen →
    s.grantAt r.id id = some g → seen.status ≠ .revoked → g.status ≠ .revoked →
    g.revokedBy = seen.revokedBy
  revoked : ∀ i k id, Revokes log i k id → ∃ g, s.grantAt k id = some g ∧ g.status = .revoked
  once : ∀ i j k id, Revokes log i k id → Revokes log j k id → i = j
  origin : ∀ i, ∀ r ∈ told read? (past log i), ∀ id seen g, r.grant? id = some seen →
    seen.isActive = true → s.grantAt r.id id = some g → g.status = .revoked →
    ∃ j, Revokes log j r.id id

theorem grantAt_congr (hs : s'.requests = s.requests) (k id : String) :
    s'.grantAt k id = s.grantAt k id := by
  rw [MemoryStore.grantAt, hs]
  rfl

theorem steady_nil (s : MemoryStore) : Steady s [] :=
  have none : ∀ i k id, ¬ Revokes [] i k id := by
    rintro i k id ⟨_, _, _, _, _, ⟨e, he, -⟩, -⟩
    cases he
  ⟨by simp, by simp, fun i k id h => (none i k id h).elim, fun i _ k id h => (none i k id h).elim,
    by simp⟩

/-- A move that writes nothing keeps things steady; what it reads is what is stored. -/
theorem Steady.cons_same {c : Call} {reply : Option c.Reply} (h : Steady s log)
    (hc : Allowed log i o c) (hs : s'.requests = s.requests) (hst : stored? ⟨c, reply⟩ = none)
    (hr : ∀ r, read? ⟨c, reply⟩ = some r → s.requests[r.id]? = some r) :
    Steady s' (⟨i, o, c, reply⟩ :: log) := by
  have stored : ∀ {r id seen}, read? ⟨c, reply⟩ = some r → r.grant? id = some seen →
      s.grantAt r.id id = some seen := by
    intro r id seen hread hseen
    rw [MemoryStore.grantAt, hr r hread]
    exact hseen
  constructor
  · intro j r hj id seen hseen hfin
    rw [mem_told_past_cons] at hj
    rw [grantAt_congr hs]
    rcases hj with ⟨-, hj⟩ | hj
    · exact ⟨seen, stored hj hseen, rfl, rfl⟩
    · exact h.final j r hj id seen hseen hfin
  · intro j r hj id seen g hseen hg hne hne'
    rw [mem_told_past_cons] at hj
    rw [grantAt_congr hs] at hg
    rcases hj with ⟨-, hj⟩ | hj
    · rw [stored hj hseen] at hg
      cases hg
      rfl
    · exact h.revoker j r hj id seen g hseen hg hne hne'
  · intro j k id hj
    rw [grantAt_congr hs]
    exact h.revoked j k id (hj.of_cons hc hst)
  · intro j j' k id hj hj'
    exact h.once j j' k id (hj.of_cons hc hst) (hj'.of_cons hc hst)
  · intro j r hj id seen g hseen hact hg hrev
    rw [mem_told_past_cons] at hj
    rw [grantAt_congr hs] at hg
    rcases hj with ⟨-, hj⟩ | hj
    · rw [stored hj hseen] at hg
      cases hg
      simp [Grant.isActive, hrev] at hact
    · obtain ⟨j', hj'⟩ := h.origin j r hj id seen g hseen hact hg hrev
      exact ⟨j', hj'.cons hc⟩

/-! ## A write that does not overtake -/

/-- A revocation writes its outcome. -/
structure Writes (s s' : MemoryStore) (log : List revocations.Entry) (i : Nat) (o : Revocation)
    (r : AccessRequest) (t : Instant) (v : Except WorkflowError (List Grant)) : Prop where
  shaped : Shaped s log
  decided : o.Decided (past log i) r t v
  unwritten : told stored? (past log i) = []
  table : s'.requests = s.requests.insert r.id (r.outcome t v)

/-- What was active when it was read is still so, or has expired and is to expire. -/
def Timely (s : MemoryStore) (o : Revocation) (r : AccessRequest) (t : Instant) : Prop :=
  ∀ id seen g, r.grant? id = some seen → s.grantAt r.id id = some g → seen.isActive = true →
    g.isActive = false → g.status = .expired ∧ (seen.settle o.actor.id t).status = .expired

section Write

variable {r : AccessRequest} {t : Instant} {v : Except WorkflowError (List Grant)}
  (hw : Writes s s' log i o r t v)
include hw

theorem Writes.grantAt (k id : String) : s'.grantAt k id =
    if r.id = k then (r.grant? id).map (·.settle o.actor.id t) else s.grantAt k id := by
  obtain ⟨-, -, hgrants⟩ := hw.shaped.written hw.decided
  rw [MemoryStore.grantAt, hw.table, MemoryStore.getElem?_insert_row]
  split
  · exact AccessRequest.grant?_of_map hgrants (fun g => g.settle_id _ _) id
  · rfl

/-- Every stored grant of the request was read too. -/
theorem Writes.seen {id : String} {g : Grant} (hg : s.grantAt r.id id = some g) :
    ∃ seen, r.grant? id = some seen := by
  obtain ⟨r', hr', hids⟩ := hw.shaped.reads i r hw.decided.mem_read
  rw [MemoryStore.grantAt, hr'] at hg
  exact AccessRequest.exists_grant? hids.symm hg

theorem Writes.stored {id : String} {seen : Grant} (hseen : r.grant? id = some seen) :
    ∃ g, s.grantAt r.id id = some g := by
  obtain ⟨r', hr', hids⟩ := hw.shaped.reads i r hw.decided.mem_read
  rw [MemoryStore.grantAt, hr']
  exact AccessRequest.exists_grant? hids hseen

variable (h : Steady s log) (ht : Timely s o r t)
include h ht

theorem Writes.settle_eq {id : String} {seen g : Grant} (hseen : r.grant? id = some seen)
    (hg : s.grantAt r.id id = some g) (hfin : g.isActive = false) :
    (seen.settle o.actor.id t).status = g.status ∧
      (seen.settle o.actor.id t).revokedBy = g.revokedBy := by
  have hmem := hw.decided.mem_read
  cases hact : seen.isActive with
  | false =>
    obtain ⟨g', hg', hstatus, hby⟩ := h.final i r hmem id seen hseen hact
    rw [hg] at hg'
    cases hg'
    rw [Grant.settle_of_final hact]
    exact ⟨hstatus.symm, hby.symm⟩
  | true =>
    obtain ⟨hexp, hexp'⟩ := ht id seen g hseen hg hact hfin
    refine ⟨hexp'.trans hexp.symm, ?_⟩
    rcases Grant.settle_active hact with ⟨-, hby⟩ | ⟨hrev, -⟩
    · have hne : seen.status ≠ .revoked := by
        intro hrev
        simp [Grant.isActive, hrev] at hact
      rw [hby, h.revoker i r hmem id seen g hseen hg hne (by simp [hexp])]
    · rw [hexp'] at hrev
      cases hrev

theorem Writes.stays {k id : String} {g : Grant} (hg : s.grantAt k id = some g)
    (hfin : g.isActive = false) :
    ∃ g', s'.grantAt k id = some g' ∧ g'.status = g.status ∧ g'.revokedBy = g.revokedBy := by
  rw [hw.grantAt]
  split
  · rename_i hk
    subst hk
    obtain ⟨seen, hseen⟩ := hw.seen hg
    rw [hseen]
    exact ⟨_, rfl, hw.settle_eq h ht hseen hg hfin⟩
  · exact ⟨g, hg, rfl, rfl⟩

theorem Writes.revoker {j : Nat} {r' : AccessRequest} (hr' : r' ∈ told read? (past log j))
    {id : String} {seen g : Grant} (hseen : r'.grant? id = some seen)
    (hg : s'.grantAt r'.id id = some g) (hne : seen.status ≠ .revoked) (hne' : g.status ≠ .revoked) :
    g.revokedBy = seen.revokedBy := by
  have hmem := hw.decided.mem_read
  rw [hw.grantAt] at hg
  split at hg
  · rename_i hk
    obtain ⟨own, hown, rfl⟩ := Option.map_eq_some_iff.mp hg
    obtain ⟨g, hg⟩ := hw.stored hown
    cases hfin : g.isActive with
    | false =>
      obtain ⟨hstatus, hby⟩ := hw.settle_eq h ht hown hg hfin
      rw [hby]
      rw [hk] at hg
      exact h.revoker j r' hr' id seen g hseen hg hne (by rw [← hstatus]; exact hne')
    | true =>
      have hact : own.isActive = true := by
        cases hact : own.isActive with
        | true => rfl
        | false =>
          obtain ⟨g', hg', hstatus, -⟩ := h.final i r hmem id own hown hact
          rw [hg] at hg'
          cases hg'
          simp only [Grant.isActive, hstatus] at hfin hact
          rw [hfin] at hact
          cases hact
      have hg₀ : g.status = .active := by simpa [Grant.isActive] using hfin
      have hown₀ : own.status = .active := by simpa [Grant.isActive] using hact
      rcases Grant.settle_active hact with ⟨-, hby⟩ | ⟨hrev, -⟩
      · have hkeep := h.revoker i r hmem id own g hown hg (by simp [hown₀]) (by simp [hg₀])
        rw [hk] at hg
        rw [hby, ← hkeep]
        exact h.revoker j r' hr' id seen g hseen hg hne (by simp [hg₀])
      · exact absurd hrev hne'
  · exact h.revoker j r' hr' id seen g hseen hg hne hne'

end Write

/-- The tasks that have revoked a grant after a write: those of before, and the writer. -/
theorem Writes.revokes {r : AccessRequest} {t : Instant} {v : Except WorkflowError (List Grant)}
    (hw : Writes s s' log i o r t v)
    (hc : Allowed log i o (.resource (.store (.putRequest (r.outcome t v))))) {j : Nat}
    {k id : String}
    (h : Revokes (⟨i, o, .resource (.store (.putRequest (r.outcome t v))), some (.ok ())⟩ :: log)
      j k id) :
    Revokes log j k id ∨ (j = i ∧ k = r.id ∧ ∃ seen, r.grant? id = some seen ∧
      seen.isActive = true ∧ (seen.settle o.actor.id t).status = .revoked) := by
  obtain ⟨o', r', t', v', seen, ⟨e, he, hei, rfl⟩, hd, hne, hk, hseen, hact, hrev⟩ := h
  by_cases hij : i = j
  · subst hij
    have hop : e.op = o := by
      rcases List.mem_cons.mp he with rfl | he
      · rfl
      · exact hc.same e he hei
    rw [hop, past_cons_self] at hd
    rw [hop] at hrev
    obtain ⟨rfl, rfl, rfl⟩ := (hw.decided.cons hc.rule (some (.ok ()))).unique hd
    exact .inr ⟨rfl, hk.symm, seen, hseen, hact, hrev⟩
  · rw [past_cons_ne hij] at hd hne
    rcases List.mem_cons.mp he with rfl | he
    · exact absurd hei hij
    · exact .inl ⟨e.op, r', t', v', seen, ⟨e, he, hei, rfl⟩, hd, hne, hk, hseen, hact, hrev⟩

theorem Writes.revokes_self {r : AccessRequest} {t : Instant}
    {v : Except WorkflowError (List Grant)} (hw : Writes s s' log i o r t v)
    (hc : Allowed log i o (.resource (.store (.putRequest (r.outcome t v))))) {id : String}
    {seen : Grant} (hseen : r.grant? id = some seen) (hact : seen.isActive = true)
    (hrev : (seen.settle o.actor.id t).status = .revoked) :
    Revokes (⟨i, o, .resource (.store (.putRequest (r.outcome t v))), some (.ok ())⟩ :: log)
      i r.id id := by
  refine ⟨o, r, t, v, seen, ⟨_, List.mem_cons_self, rfl, rfl⟩, ?_, ?_, rfl, hseen, hact, hrev⟩
  · rw [past_cons_self]
    exact hw.decided.cons hc.rule _
  · rw [told_past_cons, if_pos rfl]
    simp [stored?]

theorem Steady.cons_written (h : Steady s log) {r : AccessRequest} {t : Instant}
    {v : Except WorkflowError (List Grant)} (hw : Writes s s' log i o r t v)
    (hc : Allowed log i o (.resource (.store (.putRequest (r.outcome t v)))))
    (ht : Timely s o r t) :
    Steady s' (⟨i, o, .resource (.store (.putRequest (r.outcome t v))), some (.ok ())⟩ :: log) := by
  have reads : ∀ {j q}, q ∈ told read? (past (⟨i, o, .resource (.store (.putRequest (r.outcome t v))),
      some (.ok ())⟩ :: log) j) → q ∈ told read? (past log j) := by
    intro j q hq
    rw [mem_told_past_cons] at hq
    rcases hq with ⟨-, hq⟩ | hq
    · cases hq
    · exact hq
  have hmem := hw.decided.mem_read
  -- a grant that some task had revoked before is not revoked by the writer
  have apart : ∀ j id seen, Revokes log j r.id id → r.grant? id = some seen →
      seen.isActive = true → False := by
    intro j id seen hj hseen hact
    obtain ⟨g, hg, hrev⟩ := h.revoked j r.id id hj
    obtain ⟨hexp, -⟩ := ht id seen g hseen hg hact (by simp [Grant.isActive, hrev])
    rw [hrev] at hexp
    cases hexp
  constructor
  · intro j q hq id seen hseen hfin
    obtain ⟨g, hg, hstatus, hby⟩ := h.final j q (reads hq) id seen hseen hfin
    have hfin' : g.isActive = false := by
      rw [Grant.isActive, hstatus]
      exact hfin
    obtain ⟨g', hg', hstatus', hby'⟩ := hw.stays h ht hg hfin'
    exact ⟨g', hg', hstatus'.trans hstatus, hby'.trans hby⟩
  · intro j q hq id seen g hseen hg hne hne'
    exact hw.revoker h ht (reads hq) hseen hg hne hne'
  · intro j k id hj
    rcases hw.revokes hc hj with hj | ⟨rfl, rfl, seen, hseen, -, hrev⟩
    · obtain ⟨g, hg, hrev⟩ := h.revoked j k id hj
      obtain ⟨g', hg', hstatus, -⟩ := hw.stays h ht hg (by simp [Grant.isActive, hrev])
      exact ⟨g', hg', hstatus.trans hrev⟩
    · exact ⟨seen.settle o.actor.id t, by rw [hw.grantAt, if_pos rfl, hseen]; rfl, hrev⟩
  · intro j j' k id hj hj'
    rcases hw.revokes hc hj with hold | ⟨rfl, rfl, seen, hseen, hact, -⟩
    · rcases hw.revokes hc hj' with hold' | ⟨rfl, rfl, seen, hseen, hact, -⟩
      · exact h.once j j' k id hold hold'
      · exact (apart j id seen hold hseen hact).elim
    · rcases hw.revokes hc hj' with hold' | ⟨rfl, -, -⟩
      · exact (apart j' id seen hold' hseen hact).elim
      · rfl
  · intro j q hq id seen g hseen hact hg hrev
    rw [hw.grantAt] at hg
    split at hg
    · rename_i hk
      obtain ⟨own, hown, rfl⟩ := Option.map_eq_some_iff.mp hg
      rw [← hk]
      cases hown' : own.isActive with
      | true => exact ⟨i, hw.revokes_self hc hown hown' hrev⟩
      | false =>
        rw [Grant.settle_of_final hown'] at hrev
        obtain ⟨g, hg, hstatus, -⟩ := h.final i r hmem id own hown hown'
        rw [hk] at hg
        obtain ⟨j', hj'⟩ := h.origin j q (reads hq) id seen g hseen hact hg (hstatus.trans hrev)
        rw [hk]
        exact ⟨j', hj'.cons hc⟩
    · obtain ⟨j', hj'⟩ := h.origin j q (reads hq) id seen g hseen hact hg hrev
      exact ⟨j', hj'.cons hc⟩

end Pool
end AccessGrants
