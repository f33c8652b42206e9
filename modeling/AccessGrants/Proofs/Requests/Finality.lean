import AccessGrants.Proofs.Requests.Steadiness

/-!
# AccessGrants.Proofs.Requests.Finality

When grants leave the active state once, however revocations are interleaved.

* `Overtakes`     — a move that writes a settled grant again, from a copy in which it was active.
* `Final`         — final grants stay as they are, and each is reported as revoked at most once.
* `run_final_iff` — runs without such a move are final, and runs with one are not when all of their
                    revocations have ended.
* `TwoRevokers`   — a run in which the revoker of a grant changes.
-/

namespace AccessGrants

open Exchange

namespace Pool

variable {w₀ w : World} {log : List revocations.Entry} {s : MemoryStore} {i : Nat} {o : Revocation}

/-! ## One move -/

/-- The move writes a request from a copy that was read when a grant was active, and the grant is
settled by now. Only an expiry over an expiry does no harm. -/
def Overtakes (s : revocations.State) (m : revocations.Move) : Prop :=
  ∃ i x q, m = .proceed i x ∧ pending s i = some (.resource (.store (.putRequest q))) ∧
    ∃ r ∈ told read? (past s.log i), ∃ id seen stored written, r.grant? id = some seen ∧
      s.world.store.grantAt q.id id = some stored ∧ q.grant? id = some written ∧
      seen.isActive = true ∧ stored.isActive = false ∧
      ¬ (stored.status = .expired ∧ written.status = .expired)

/-- A state of revocations: each keeps its rule, and at its end everything that it has revoked is
reported. -/
abbrev Kept (w₀ : World) (s : revocations.State) : Prop :=
  Keeps (S := revocations) Revocation.rule (fun o past _ => o.Reported past) w₀ s

theorem revoke_keeps (o : Revocation) :
    Interaction.Obeys o.rule (fun past _ => o.Reported past) [] (revocations.program o).run := by
  refine Interaction.Obeys.mono o.revoke_obeys (fun _ _ h => h) fun past r hr => ?_
  cases r with
  | ok a => exact hr
  | error e => exact hr

theorem revocations_keep (w₀ : World) (moves : List revocations.Move) :
    Kept w₀ (run w₀ moves) :=
  run_keeps revoke_keeps w₀ moves

variable {st : revocations.State}

theorem allowed_of_pending (hk : Kept w₀ st) {o : Revocation} {c : Call}
    {next : c.Reply → Proc (Except ServiceError AccessRequest)}
    (hi : st.tasks[i]? = some ⟨o, some (.step c next)⟩) : Allowed st.log i o c :=
  ⟨(hk.rests i o _ hi).1, hk.same_op hi, hk.trace.kept (hk.same_op hi)⟩

theorem writes_of_pending (h₀ : w₀.store.Sound) (hk : Kept w₀ st) {q : AccessRequest}
    (hp : pending st i = some (.resource (.store (.putRequest q)))) (x : Surroundings) :
    ∃ o r t v, q = r.outcome t v ∧
      Allowed st.log i o (.resource (.store (.putRequest (r.outcome t v)))) ∧
      Writes st.world.store (proceed st i x).world.store st.log i o r t v ∧
      (proceed st i x).log =
        ⟨i, o, .resource (.store (.putRequest (r.outcome t v))), some (.ok ())⟩ :: st.log := by
  obtain ⟨o, next, hi⟩ := pending_eq_some.mp hp
  have hallow := allowed_of_pending hk hi
  obtain ⟨hunwritten, r, t, v, hd, rfl⟩ := rule_write hallow.rule
  refine ⟨o, r, t, v, rfl, hallow, ⟨hk.trace.shaped h₀, hd, hunwritten, ?_⟩, ?_⟩
  · rw [proceed_store hp x, ← r.outcome_id t v]
    rfl
  · rw [proceed, hi]
    rfl

theorem act_effect (h₀ : w₀.store.Sound) (hk : Kept w₀ st) (m : revocations.Move) :
    ((act st m).log = st.log ∧ (act st m).world.store = st.world.store) ∨
    (∃ i o c, ∃ reply : c.Reply, Allowed st.log i o c ∧
      (act st m).log = ⟨i, o, c, some reply⟩ :: st.log ∧
      (act st m).world.store.requests = st.world.store.requests ∧
      stored? ⟨c, some reply⟩ = none ∧
      ∀ r, read? ⟨c, some reply⟩ = some r → st.world.store.requests[r.id]? = some r) ∨
    ∃ i x q, m = .proceed i x ∧ pending st i = some (.resource (.store (.putRequest q))) := by
  cases m with
  | start o => exact .inl ⟨rfl, rfl⟩
  | clock t => exact .inl ⟨rfl, rfl⟩
  | proceed i x =>
    cases hp : pending st i with
    | none =>
      rw [act, proceed_of_pending hp]
      exact .inl ⟨rfl, rfl⟩
    | some c =>
      obtain ⟨o, next, hi⟩ := pending_eq_some.mp hp
      have hallow := allowed_of_pending hk hi
      obtain ⟨reply, w', hw⟩ := Revocation.perform_isSome hallow.rule x st.world
      rcases World.perform_requests hw with ⟨q, rfl, -, -, -⟩ | ⟨hs, hst, hrd⟩
      · exact .inr (.inr ⟨i, x, q, rfl, hp⟩)
      · simp only [act, proceed_eq hi hw]
        refine .inr (.inl ⟨i, o, c, reply, hallow, rfl, hs, hst, fun r hr => ?_⟩)
        obtain ⟨k, hk'⟩ := hrd r hr
        rw [((hk.trace.shaped h₀).sound k r hk').1]
        exact hk'

theorem Writes.grant?_outcome {s' : MemoryStore} {r : AccessRequest} {t : Instant}
    {v : Except WorkflowError (List Grant)} (hw : Writes s s' log i o r t v) (id : String) :
    (r.outcome t v).grant? id = (r.grant? id).map (·.settle o.actor.id t) := by
  obtain ⟨-, -, hgrants⟩ := hw.shaped.written hw.decided
  exact AccessRequest.grant?_of_map hgrants (fun g => g.settle_id _ _) id

theorem Writes.timely {s' : MemoryStore} {r : AccessRequest} {t : Instant}
    {v : Except WorkflowError (List Grant)} {m : revocations.Move} {x : Surroundings}
    (hw : Writes st.world.store s' st.log i o r t v) (hm : ¬ Overtakes st m)
    (hmove : m = .proceed i x)
    (hp : pending st i = some (.resource (.store (.putRequest (r.outcome t v))))) :
    Timely st.world.store o r t := by
  intro id seen g hseen hg hact hfin
  refine Classical.byContradiction fun hn => hm ⟨i, x, r.outcome t v, hmove, hp, r,
    hw.decided.mem_read, id, seen, g, seen.settle o.actor.id t, hseen, ?_, ?_, hact, hfin, hn⟩
  · rw [r.outcome_id]
    exact hg
  · rw [hw.grant?_outcome, hseen]
    rfl

/-- What a move that does not overtake leaves as it is. -/
theorem steady_act (h₀ : w₀.store.Sound) (hk : Kept w₀ st) (h : Steady st.world.store st.log)
    {m : revocations.Move} (hm : ¬ Overtakes st m) :
    Steady (act st m).world.store (act st m).log ∧
    ∀ k id g, st.world.store.grantAt k id = some g → g.isActive = false →
      ∃ g', (act st m).world.store.grantAt k id = some g' ∧ g'.status = g.status ∧
        g'.revokedBy = g.revokedBy := by
  rcases act_effect h₀ hk m with ⟨hlog, hs⟩ | ⟨i, o, c, reply, hc, hlog, hs, hst, hrd⟩ |
    ⟨i, x, q, rfl, hp⟩
  · rw [hlog, hs]
    exact ⟨h, fun k id g hg _ => ⟨g, hg, rfl, rfl⟩⟩
  · rw [hlog]
    refine ⟨h.cons_same hc hs hst hrd, fun k id g hg _ => ⟨g, ?_, rfl, rfl⟩⟩
    rw [grantAt_congr hs]
    exact hg
  · obtain ⟨o, r, t, v, rfl, hc, hw, hlog⟩ := writes_of_pending h₀ hk hp x
    rw [act, hlog]
    have ht := hw.timely hm rfl hp
    exact ⟨h.cons_written hw hc ht, fun k id g hg hfin => hw.stays h ht hg hfin⟩

theorem Revokes.act (h₀ : w₀.store.Sound) (hk : Kept w₀ st) {j : Nat} {k id : String}
    (h : Revokes st.log j k id) (m : revocations.Move) : Revokes (act st m).log j k id := by
  rcases act_effect h₀ hk m with ⟨hlog, -⟩ | ⟨i, o, c, reply, hc, hlog, -⟩ | ⟨i, x, q, rfl, hp⟩
  · rw [hlog]
    exact h
  · rw [hlog]
    exact h.cons hc
  · obtain ⟨o, r, t, v, rfl, hc, -, hlog⟩ := writes_of_pending h₀ hk hp x
    rw [Pool.act, hlog]
    exact h.cons hc

/-! ## Reports -/

/-- The request and the grant that an event reports as revoked. -/
def revokedGrant? : AccessEvent → Option (String × String)
  | .grantRevoked requestId grantId _ => some (requestId, grantId)
  | _ => none

def reported? (e : Exchange Call.Reply) : Option (String × String) :=
  (emitted? e).bind revokedGrant?

/-- The grants that were reported as revoked, by whatever task. -/
def allReported (log : List revocations.Entry) : List (String × String) :=
  told reported? (log.map (·.exchange))

theorem told_reported (past : Past) :
    told reported? past = (told emitted? past).filterMap revokedGrant? := by
  rw [told, told, List.filterMap_filterMap]
  rfl

theorem reports_revoked (o : Revocation) (r : AccessRequest) (revoked : List Grant) :
    (o.reports r revoked).filterMap revokedGrant? = revoked.map fun g => (r.id, g.id) := by
  rw [Revocation.reports, List.filterMap_map, ← List.filterMap_eq_map]
  rfl

/-- What a task has reported is the beginning of what it has revoked. -/
theorem reported_prefix (hk : Interaction.Kept o.rule (past log i)) {p : String × String}
    (hp : p ∈ told reported? (past log i)) :
    ∃ r t revoked, o.Decided (past log i) r t (.ok revoked) ∧ told stored? (past log i) ≠ [] ∧
      (told reported? (past log i)).reverse <+: revoked.map fun g => (r.id, g.id) := by
  rcases (Revocation.Progress.of_kept hk).emitted with hnil | ⟨r, t, revoked, hd, hst, hpre⟩
  · rw [told_reported, hnil] at hp
    cases hp
  · refine ⟨r, t, revoked, hd, by rw [hst]; simp, ?_⟩
    rw [told_reported, ← List.filterMap_reverse, ← reports_revoked o]
    exact hpre.filterMap _

theorem revokes_of_reported (hs : Shaped s log) (hr : Runs log i o)
    (hk : Interaction.Kept o.rule (past log i)) {k id : String}
    (hp : (k, id) ∈ told reported? (past log i)) : Revokes log i k id := by
  obtain ⟨r, t, revoked, hd, hst, hpre⟩ := reported_prefix hk hp
  obtain ⟨hn, hverdict, -⟩ := hs.written hd
  obtain ⟨g, hg, hpair⟩ := List.mem_map.mp (hpre.subset (List.mem_reverse.mpr hp))
  cases hpair
  obtain ⟨seen, hseen, hact, hrev⟩ :=
    (AccessRequest.revoked_iff hn).mp ⟨revoked, hverdict.symm, g, hg, rfl⟩
  exact ⟨o, r, t, .ok revoked, seen, hr, hd, hst, rfl, hseen, hact, hrev⟩

theorem reported_once (hs : Shaped s log) (hk : Interaction.Kept o.rule (past log i)) :
    (told reported? (past log i)).Nodup := by
  cases hrep : told reported? (past log i) with
  | nil => exact List.nodup_nil
  | cons p rest =>
    have hmem : p ∈ told reported? (past log i) := by
      rw [hrep]
      exact List.mem_cons_self
    obtain ⟨r, t, revoked, hd, -, hpre⟩ := reported_prefix hk hmem
    obtain ⟨hn, hverdict, -⟩ := hs.written hd
    have hids := AccessRequest.revoked_nodup hn hverdict.symm
    have hpairs : (revoked.map fun g => (r.id, g.id)).Nodup := by
      have hmap : (revoked.map fun g => (r.id, g.id)) = (revoked.map (·.id)).map (Prod.mk r.id) := by
        rw [List.map_map]
        rfl
      rw [hmap]
      exact hids.map fun a b h => (Prod.mk.inj h).2
    rw [← hrep]
    exact List.nodup_reverse.mp (hpairs.sublist hpre.sublist)

section Ends

variable (h₀ : w₀.store.Sound) (hk : Kept w₀ st)
include h₀ hk

theorem allReported_nodup (h : Steady st.world.store st.log) : (allReported st.log).Nodup := by
  have hshape := hk.trace.shaped h₀
  rw [allReported, ← List.map_id (told reported? _)]
  refine told_nodup (fun i j a b ha hb hab => ?_) fun i => ?_
  · obtain ⟨o, ho⟩ := runs_of_told ha
    obtain ⟨o', ho'⟩ := runs_of_told hb
    obtain rfl : a = b := hab
    exact h.once i j a.1 a.2 (revokes_of_reported hshape ho (hk.trace.kept_of_runs ho) ha)
      (revokes_of_reported hshape ho' (hk.trace.kept_of_runs ho') hb)
  · rw [List.map_id]
    cases hrep : told reported? (past st.log i) with
    | nil => exact List.nodup_nil
    | cons p rest =>
      have hmem : p ∈ told reported? (past st.log i) := by
        rw [hrep]
        exact List.mem_cons_self
      obtain ⟨o, ho⟩ := runs_of_told hmem
      rw [← hrep]
      exact reported_once hshape (hk.trace.kept_of_runs ho)

theorem Revokes.reported (hend : Ended st) {k id : String} (h : Revokes st.log i k id) :
    (k, id) ∈ told reported? (past st.log i) := by
  obtain ⟨o, r, t, v, seen, ⟨e, he, rfl, rfl⟩, hd, hst, rfl, hseen, hact, hrev⟩ := h
  obtain ⟨hn, hverdict, -⟩ := (hk.trace.shaped h₀).written hd
  obtain ⟨revoked, hv, g, hg, rfl⟩ := (AccessRequest.revoked_iff hn).mpr ⟨seen, hseen, hact, hrev⟩
  rw [hverdict, hv] at hd
  have hreports : (e.op).Reported (past st.log e.task) := by
    obtain ⟨⟨o, rest⟩, ht, hop⟩ := hk.tasks e he
    obtain ⟨a, ha⟩ := hend e.task _ ht
    simp only at hop ha
    rw [ha] at ht
    rw [← hop]
    exact hk.rests e.task o _ ht
  rw [told_reported]
  refine List.mem_filterMap.mpr ⟨.grantRevoked r.id g.id e.op.actor.id, ?_, rfl⟩
  rw [← List.mem_reverse, hreports r t revoked hd hst]
  exact List.mem_map.mpr ⟨g, hg, rfl⟩

end Ends

/-! ## Whole runs -/

/-- From one state of a run on, a grant that is final keeps its status and its revoker, and in the
whole run no grant is reported as revoked twice. -/
def Final (w₀ : World) (moves : List revocations.Move) : Prop :=
  (∀ n n', n ≤ n' → ∀ k id g, (run w₀ (moves.take n)).world.store.grantAt k id = some g →
    g.isActive = false → ∃ g', (run w₀ (moves.take n')).world.store.grantAt k id = some g' ∧
      g'.status = g.status ∧ g'.revokedBy = g.revokedBy) ∧
  (allReported (run w₀ moves).log).Nodup

/-- No move of a run overtakes. -/
def Undisturbed (w₀ : World) (moves : List revocations.Move) : Prop :=
  ∀ n m, moves[n]? = some m → ¬ Overtakes (run w₀ (moves.take n)) m

section Runs

variable {moves : List revocations.Move} {n n' : Nat}

theorem steady_run (h₀ : w₀.store.Sound)
    (hm : ∀ k < n, ∀ m, moves[k]? = some m → ¬ Overtakes (run w₀ (moves.take k)) m) :
    Steady (run w₀ (moves.take n)).world.store (run w₀ (moves.take n)).log := by
  refine run_take_le (P := fun st => Steady st.world.store st.log) (fun k hk m hj h => ?_)
    (Nat.zero_le n) (steady_nil _)
  exact (steady_act h₀ (revocations_keep w₀ (moves.take k)) h (hm k hk m hj)).1

theorem revokes_run (h₀ : w₀.store.Sound) (hle : n ≤ n') {k id : String}
    (h : Revokes (run w₀ (moves.take n)).log i k id) :
    Revokes (run w₀ (moves.take n')).log i k id :=
  run_take_le (P := fun st => Revokes st.log i k id)
    (fun k _ m _ h => h.act h₀ (revocations_keep w₀ (moves.take k)) m) hle h

theorem final_of_undisturbed (h₀ : w₀.store.Sound) (hm : Undisturbed w₀ moves) :
    Final w₀ moves := by
  have steady : ∀ n, Steady (run w₀ (moves.take n)).world.store (run w₀ (moves.take n)).log :=
    fun n => steady_run h₀ fun k _ => hm k
  constructor
  · intro n n' hle k id g hg hfin
    refine run_take_le (P := fun st => ∃ g', st.world.store.grantAt k id = some g' ∧
      g'.status = g.status ∧ g'.revokedBy = g.revokedBy) (fun j _ m hj h => ?_) hle ⟨g, hg, rfl, rfl⟩
    obtain ⟨g₁, hg₁, hstatus, hby⟩ := h
    have hfin₁ : g₁.isActive = false := by
      rw [Grant.isActive, hstatus]
      exact hfin
    obtain ⟨-, hstays⟩ := steady_act h₀ (revocations_keep w₀ (moves.take j)) (steady j) (hm j m hj)
    obtain ⟨g₂, hg₂, hstatus', hby'⟩ := hstays k id g₁ hg₁ hfin₁
    exact ⟨g₂, hg₂, hstatus'.trans hstatus, hby'.trans hby⟩
  · have h := allReported_nodup h₀ (revocations_keep w₀ (moves.take moves.length))
      (steady moves.length)
    rw [List.take_length] at h
    exact h

/-- A first move that overtakes either changes a final grant or revokes it a second time. -/
theorem Overtakes.revokes (h₀ : w₀.store.Sound) (hk : Kept w₀ st)
    (h : Steady st.world.store st.log) {m : revocations.Move} (hm : Overtakes st m)
    (hstays : ∀ k id g, st.world.store.grantAt k id = some g → g.isActive = false →
      ∃ g', (act st m).world.store.grantAt k id = some g' ∧ g'.status = g.status) :
    ∃ i j k id, i ≠ j ∧ Revokes (act st m).log i k id ∧ Revokes (act st m).log j k id := by
  obtain ⟨i, x, q, rfl, hp, r', hr', id, seen, stored, written, hseen, hg, hw', hact, hfin, hn⟩ := hm
  obtain ⟨o, r, t, v, rfl, hc, hw, hlog⟩ := writes_of_pending h₀ hk hp x
  rw [hw.decided.1] at hr'
  obtain rfl : r' = r := List.mem_singleton.mp hr'
  rw [r'.outcome_id] at hg
  rw [hw.grant?_outcome, hseen] at hw'
  cases hw'
  obtain ⟨g', hg', hstatus⟩ := hstays r'.id id stored hg hfin
  rw [act, hw.grantAt, if_pos rfl, hseen] at hg'
  cases hg'
  have hrev : (seen.settle o.actor.id t).status = .revoked := by
    rcases Grant.settle_active hact with ⟨hexp, -⟩ | ⟨hrev, -⟩
    · exact absurd ⟨hstatus.symm.trans hexp, hexp⟩ hn
    · exact hrev
  -- who has revoked the stored grant has written, and this task has not
  have hread := hw.decided.mem_read
  obtain ⟨j, hj⟩ := h.origin i r' hread id seen stored hseen hact hg (hstatus.symm.trans hrev)
  rw [act, hlog]
  refine ⟨i, j, r'.id, id, ?_, hw.revokes_self hc hseen hact hrev, hj.cons hc⟩
  rintro rfl
  obtain ⟨_, _, _, _, _, -, -, hwritten, -⟩ := hj
  exact hwritten hw.unwritten

theorem undisturbed_of_final (h₀ : w₀.store.Sound) (hend : Ended (run w₀ moves))
    (hf : Final w₀ moves) : Undisturbed w₀ moves := by
  obtain ⟨hstays, hn⟩ := hf
  intro n
  induction n using Nat.strongRecOn with
  | ind n ih =>
    intro m hm hover
    have hsucc := run_take_succ w₀ hm
    obtain ⟨i, j, k, id, hij, hi, hj⟩ := hover.revokes h₀ (revocations_keep w₀ (moves.take n))
      (steady_run h₀ ih) fun k id g hg hfin => by
        obtain ⟨g', hg', hstatus, -⟩ := hstays n (n + 1) (Nat.le_succ n) k id g hg hfin
        rw [hsucc] at hg'
        exact ⟨g', hg', hstatus⟩
    have hlen : n + 1 ≤ moves.length := (List.getElem?_eq_some_iff.mp hm).1
    rw [← hsucc] at hi hj
    have hi := revokes_run h₀ hlen hi
    have hj := revokes_run h₀ hlen hj
    rw [List.take_length] at hi hj
    have hk := revocations_keep w₀ moves
    exact hij (eq_of_told_nodup hn (hi.reported h₀ hk hend) (hj.reported h₀ hk hend))

end Runs

/-- However revocations are interleaved over stored requests with distinct grants, with each other
and with the clock: where no move overtakes, final grants stay final under the same revoker and are
reported as revoked at most once. Where a move overtakes, that fails as soon as all revocations have
ended, and every run can be carried on by its own tasks to where they have. -/
theorem run_final_iff (w₀ : World) (h₀ : w₀.store.Sound) (moves : List revocations.Move)
    (x : Surroundings) :
    (Undisturbed w₀ moves → Final w₀ moves) ∧
    (Ended (run w₀ moves) → (Final w₀ moves ↔ Undisturbed w₀ moves)) ∧
    ∃ more : List revocations.Move, (∀ m ∈ more, ∃ i, m = .proceed i x) ∧
      Ended (run w₀ (moves ++ more)) := by
  have alive : Alive (run w₀ moves) :=
    run_alive revoke_keeps (fun _ _ _ h x w => Revocation.perform_isSome h x w) w₀ moves
  obtain ⟨more, hmore, hend⟩ :=
    exists_ended x (fun _ _ _ h w => Revocation.perform_isSome h x w) (revocations_keep w₀ moves)
      alive
  refine ⟨final_of_undisturbed h₀, fun hend => ⟨undisturbed_of_final h₀ hend, ?_⟩, more, hmore, ?_⟩
  · exact final_of_undisturbed h₀
  · rw [run_append]
    exact hend

/-! ## A run that is not final -/

namespace TwoRevokers

def alice : User := ⟨"alice", "alice@acme.com", ∅⟩

def bob : User := ⟨"bob", "bob@acme.com", ∅⟩

/-- A request of Alice with one active grant. -/
def request : AccessRequest where
  id := "r"
  preflightId := "p"
  requestedBy := ⟨"alice", "alice@acme.com"⟩
  reason := none
  groups := [⟨"a", "r", "rule", [], 3600, [⟨"g", "a", "t", "tg", ∅, "rule", "alice",
    "alice@acme.com", .active, ⟨0, 0⟩, ⟨3600, 0⟩, none⟩]⟩]
  reviewers := ∅
  createdAt := ⟨0, 0⟩
  updatedAt := ⟨0, 0⟩

def world : World :=
  ⟨((MemoryStore.empty 50).perform (.putRequest request)).2, ⟨0, 0⟩, []⟩

/-- Every call of a task is made where all are administrators. -/
def calls (task n : Nat) : List revocations.Move :=
  List.replicate n (.proceed task { Surroundings.plain with isAdmin := fun _ => .ok true })

/-- Both read the request before one of them writes it: Alice writes first, then Bob. -/
def moves : List revocations.Move :=
  .start ⟨alice, "r"⟩ :: .start ⟨bob, "r"⟩ :: calls 0 3 ++ calls 1 4 ++
  calls 0 1 ++ calls 1 1 ++ calls 0 2 ++ calls 1 2

theorem world_sound : world.store.Sound := by
  intro k r hr
  simp only [world, MemoryStore.perform] at hr
  rw [MemoryStore.getElem?_insert_row] at hr
  split at hr
  · rename_i hk
    cases hr
    exact ⟨hk, by decide⟩
  · simp [MemoryStore.empty] at hr

theorem revoker_changes :
    ((run world (moves.take 10)).world.store.grantAt "r" "g").map
      (fun g => (g.isActive, g.revokedBy)) = some (false, some "alice") ∧
    ((run world (moves.take 11)).world.store.grantAt "r" "g").map (·.revokedBy) =
      some (some "bob") := by
  decide +kernel

theorem changed_not_final (hf : Final world moves) : False := by
  obtain ⟨hbefore, hafter⟩ := revoker_changes
  obtain ⟨g, hg, hg'⟩ := Option.map_eq_some_iff.mp hbefore
  obtain ⟨hfin, hby⟩ := Prod.mk.inj hg'
  obtain ⟨g', hg', -, hby'⟩ := hf.1 10 11 (by omega) "r" "g" g hg hfin
  rw [hg', Option.map_some, hby', hby] at hafter
  exact absurd hafter (by decide)

/-- The revoker of a revoked grant changes. -/
theorem moves_not_final : ¬ Final world moves :=
  changed_not_final

/-- One of the moves overtakes. -/
theorem moves_disturbed : world.store.Sound ∧ ¬ Undisturbed world moves :=
  ⟨world_sound, fun h =>
    changed_not_final ((run_final_iff world world_sound moves .plain).1 h)⟩

end TwoRevokers

end Pool
end AccessGrants
