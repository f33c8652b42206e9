import AccessGrants.Proofs.Preflights.Ownership

/-!
# AccessGrants.Proofs.Preflights.SingleUse

A preflight backs at most one request, however the operations are interleaved.

* `claimed_of_asked`   — who asks the workflow about a group has claimed the preflight of the group.
* `claimed_of_request` — a stored request is that of the task that claimed its preflight.
* `run_single_use`     — what follows for every run from an empty store.
-/

namespace AccessGrants

open Exchange Interaction

namespace Pool

section Services

variable {rules : ServiceRules} {view : Surroundings → Surroundings} {w₀ w : World}
  {log : List (services rules view).Entry} (h₀ : w₀.store = .empty pageSize)
  (h : Trace (S := services rules view) (Operation.rule rules) w₀ w log)
include h₀ h

theorem Trace.groupIds_nodup {k : String} {p : Preflight}
    (hp : w.store.preflights[k]? = some p) : p.groupIds.Nodup := by
  have owned := h.preflightsOwned (by rw [h₀]; rfl)
  obtain ⟨-, i, p₀, hp₀, -, hg⟩ := owned.drafted k p hp
  obtain ⟨_, -, hkept⟩ := kept_of_told h hp₀
  obtain ⟨-, -, hissued⟩ := Operation.kept_drafted hkept hp₀
  have hn := h.idsOwned.once i
  rw [hissued, List.nodup_cons, hg] at hn
  exact (List.pairwise_reverse.mp hn.2).imp Ne.symm

theorem Trace.preflight_of_groupId {k k' id : String} {p p' : Preflight}
    (hp : w.store.preflights[k]? = some p) (hp' : w.store.preflights[k']? = some p')
    (hid : id ∈ p.groupIds) (hid' : id ∈ p'.groupIds) : k = k' := by
  have owned := h.preflightsOwned (by rw [h₀]; rfl)
  obtain ⟨-, i, p₀, hp₀, hk, hg⟩ := owned.drafted k p hp
  obtain ⟨-, j, q₀, hq₀, hk', hg'⟩ := owned.drafted k' p' hp'
  obtain ⟨_, -, hkept⟩ := kept_of_told h hp₀
  obtain ⟨_, -, hkept'⟩ := kept_of_told h hq₀
  obtain ⟨honly, -, hissued⟩ := Operation.kept_drafted hkept hp₀
  obtain ⟨honly', -, hissued'⟩ := Operation.kept_drafted hkept' hq₀
  -- the id was handed out to one task, and that task has drafted one preflight
  have hi : id ∈ told issued? (past log i) := by
    rw [hissued, hg]
    exact List.mem_cons_of_mem _ (List.mem_reverse.mpr hid)
  have hj : id ∈ told issued? (past log j) := by
    rw [hissued', hg']
    exact List.mem_cons_of_mem _ (List.mem_reverse.mpr hid')
  obtain rfl := h.idsOwned.owner i j id hi hj
  rw [honly] at honly'
  cases honly'
  exact hk.symm.trans hk'

theorem Trace.claimed_of_asked {i : Nat} {g : AccessGroup}
    (hg : g ∈ told asked? (past log i)) : ∃ p, told claimed? (past log i) = [p] ∧
      w.store.preflights[p.id]? = some p ∧ g.id ∈ p.groupIds := by
  obtain ⟨_, -, hkept⟩ := kept_of_told h hg
  obtain ⟨p, hp, hpre⟩ := Operation.kept_asked hkept hg
  refine ⟨p, hp, ?_, hpre.subset ?_⟩
  · exact ((h.preflightsOwned (by rw [h₀]; rfl)).claimed i p (by rw [hp]; exact List.mem_cons_self)).1
  · exact List.mem_reverse.mpr (List.mem_map_of_mem hg)

theorem Trace.task_of_groupId {i j : Nat} {g g' : AccessGroup}
    (hg : g ∈ told asked? (past log i)) (hg' : g' ∈ told asked? (past log j))
    (hid : g.id = g'.id) : i = j := by
  obtain ⟨p, hp, hst, hmem⟩ := h.claimed_of_asked h₀ hg
  obtain ⟨q, hq, hst', hmem'⟩ := h.claimed_of_asked h₀ hg'
  have hpq : p.id = q.id := h.preflight_of_groupId h₀ hst hst' hmem (hid ▸ hmem')
  exact (h.preflightsOwned (by rw [h₀]; rfl)).once i j p (by rw [hp]; exact List.mem_cons_self) q
    (by rw [hq]; exact List.mem_cons_self) hpq

/-- Within one task no group is asked about twice, since the groups are those of a preflight. -/
theorem Trace.asked_once (i : Nat) : ((told asked? (past log i)).map (·.id)).Nodup := by
  cases hg : told asked? (past log i) with
  | nil => exact List.nodup_nil
  | cons g rest =>
    have hmem : g ∈ told asked? (past log i) := by rw [hg]; exact List.mem_cons_self
    obtain ⟨p, hp, hst, -⟩ := h.claimed_of_asked h₀ hmem
    obtain ⟨_, -, hkept⟩ := kept_of_told h hmem
    obtain ⟨q, hq, hpre⟩ := Operation.kept_asked hkept hmem
    rw [hp] at hq
    cases hq
    rw [← hg]
    have hn := (h.groupIds_nodup h₀ hst).sublist hpre.sublist
    exact (List.pairwise_reverse.mp hn).imp Ne.symm

theorem Trace.claimed_of_request {k : String} {r : AccessRequest}
    (hr : w.store.requests[k]? = some r) : r.id = k ∧ ∃ i p, told claimed? (past log i) = [p] ∧
      told issued? (past log i) = [k] ∧ r.preflightId = p.id ∧ r.requestedBy.id = p.userId := by
  obtain ⟨hk, i, user, input, hruns, r₀, hr₀, hid, hpre, hby⟩ :=
    (h.requestsOwned (by rw [h₀]; rfl)).stored k r hr
  have hsub := Operation.Submitting.of_kept (h.kept_of_runs hruns)
  obtain ⟨p, hp, hissued, hpre₀, hby₀⟩ := hsub.stored r₀ hr₀
  obtain ⟨-, -, user', input', hruns', hu⟩ :=
    (h.preflightsOwned (by rw [h₀]; rfl)).claimed i p (by rw [hp]; exact List.mem_cons_self)
  cases h.runs_unique hruns hruns'
  refine ⟨hk, i, p, hp, ?_, hpre.trans hpre₀, ?_⟩
  · rw [hissued, ← hid, hk]
  · rw [hby, hby₀]
    exact hu

end Services

/-! ## The result -/

section Asked

variable {S : Pool}

/-- The groups that the workflow was asked about, by whatever task and whatever came of it. -/
def allAsked (log : List S.Entry) : List AccessGroup :=
  told asked? (log.map (·.exchange))

/-- An entry that asks the workflow about a group of a preflight. -/
def Entry.AsksFor (e : S.Entry) (p : Preflight) : Prop :=
  ∃ g, asked? e.exchange = some g ∧ g.id ∈ p.groupIds

end Asked

theorem Trace.allAsked_nodup {rules : ServiceRules} {view : Surroundings → Surroundings}
    {w₀ w : World} {log : List (services rules view).Entry} (h₀ : w₀.store = .empty pageSize)
    (h : Trace (S := services rules view) (Operation.rule rules) w₀ w log) :
    ((allAsked log).map (·.id)).Nodup := by
  exact told_nodup (fun _ _ _ _ hg hg' hid => h.task_of_groupId h₀ hg hg' hid) (h.asked_once h₀)

theorem Trace.claimed_of_asksFor {rules : ServiceRules} {view : Surroundings → Surroundings}
    {w₀ w : World} {log : List (services rules view).Entry} (h₀ : w₀.store = .empty pageSize)
    (h : Trace (S := services rules view) (Operation.rule rules) w₀ w log)
    {e : (services rules view).Entry} (he : e ∈ log) {k : String} {p : Preflight}
    (hp : w.store.preflights[k]? = some p) (hask : e.AsksFor p) :
    p ∈ told claimed? (past log e.task) := by
  obtain ⟨g, hg, hmem⟩ := hask
  obtain ⟨q, hq, hst, hmem'⟩ := h.claimed_of_asked h₀ (mem_told_past_of_mem he hg)
  rw [h.preflight_of_groupId h₀ hst hp hmem' hmem, hp] at hst
  cases hst
  rw [hq]
  exact List.mem_cons_self

/-- However operations are interleaved over an empty store: the workflow is asked about no group
twice, and only about groups of stored preflights. For every stored preflight, all that ask about
its groups are one submission of its user, at most one stored request names it, and that one is of
its user; and once it is consumed it never changes again. -/
theorem run_single_use (rules : ServiceRules) (view : Surroundings → Surroundings) (pageSize : Nat)
    (clock : Instant) (moves more : List (services rules view).Move) :
    let s := run (World.fresh pageSize clock) moves
    let later := run (World.fresh pageSize clock) (moves ++ more)
    ((allAsked s.log).map (·.id)).Nodup ∧
    (∀ g ∈ allAsked s.log, ∃ p : Preflight,
      s.world.store.preflights[p.id]? = some p ∧ g.id ∈ p.groupIds) ∧
    (∀ (a : String) (r : AccessRequest), s.world.store.requests[a]? = some r →
      ∃ p : Preflight, s.world.store.preflights[r.preflightId]? = some p) ∧
    ∀ (k : String) (p : Preflight), s.world.store.preflights[k]? = some p →
      (∀ e ∈ s.log, e.AsksFor p →
        ∃ user input, e.op = .createRequest user input ∧ user.id = p.userId) ∧
      (∀ e ∈ s.log, ∀ e' ∈ s.log, e.AsksFor p → e'.AsksFor p → e.task = e'.task) ∧
      (∀ (a b : String) (r r' : AccessRequest), s.world.store.requests[a]? = some r →
        s.world.store.requests[b]? = some r' → r.preflightId = k → r'.preflightId = k → a = b) ∧
      (∀ (a : String) (r : AccessRequest), s.world.store.requests[a]? = some r →
        r.preflightId = k → r.requestedBy.id = p.userId) ∧
      (p.isConsumed = true → later.world.store.preflights[k]? = some p) := by
  intro s later
  have h₀ : (World.fresh pageSize clock).store = .empty pageSize := rfl
  have h := (services_keep rules view (World.fresh pageSize clock) moves).trace
  have hlater := (services_keep rules view (World.fresh pageSize clock) (moves ++ more)).trace
  have owned := h.preflightsOwned rfl
  refine ⟨h.allAsked_nodup h₀, fun g hg => ?_, fun a r hr => ?_, fun k p hp => ⟨?_, ?_, ?_, ?_, ?_⟩⟩
  · obtain ⟨ex, hex, hg⟩ := List.mem_filterMap.mp hg
    obtain ⟨e, he, rfl⟩ := List.mem_map.mp hex
    obtain ⟨p, -, hst, hmem⟩ := h.claimed_of_asked h₀ (mem_told_past_of_mem he hg)
    exact ⟨p, hst, hmem⟩
  · obtain ⟨-, i, p, hp, -, hpre, -⟩ := h.claimed_of_request h₀ hr
    rw [hpre]
    exact ⟨p, (owned.claimed i p (by rw [hp]; exact List.mem_cons_self)).1⟩
  · intro e he hask
    obtain ⟨-, -, user, input, hruns, hu⟩ :=
      owned.claimed e.task p (h.claimed_of_asksFor h₀ he hp hask)
    exact ⟨user, input, h.runs_unique ⟨e, he, rfl, rfl⟩ hruns, hu⟩
  · intro e he e' he' hask hask'
    exact owned.once e.task e'.task p (h.claimed_of_asksFor h₀ he hp hask) p
      (h.claimed_of_asksFor h₀ he' hp hask') rfl
  · intro a b r r' hr hr' hk hk'
    obtain ⟨-, i, q, hq, hissued, hpre, -⟩ := h.claimed_of_request h₀ hr
    obtain ⟨-, j, q', hq', hissued', hpre', -⟩ := h.claimed_of_request h₀ hr'
    obtain rfl := owned.once i j q (by rw [hq]; exact List.mem_cons_self) q'
      (by rw [hq']; exact List.mem_cons_self) (by rw [← hpre, ← hpre', hk, hk'])
    rw [hissued] at hissued'
    cases hissued'
    rfl
  · intro a r hr hk
    obtain ⟨-, i, q, hq, -, hpre, hby⟩ := h.claimed_of_request h₀ hr
    have hst := (owned.claimed i q (by rw [hq]; exact List.mem_cons_self)).1
    rw [← hpre, hk, hp] at hst
    cases hst
    exact hby
  · intro hc
    obtain ⟨i, hi⟩ := owned.consumed k p hp hc
    have hlog := mem_told_past_of_suffix (log_suffix (World.fresh pageSize clock) moves more) hi
    rw [← (owned.drafted k p hp).1]
    exact ((hlater.preflightsOwned rfl).claimed i p hlog).1

namespace TwoSubmissions

def alice : User := ⟨"alice", "alice@acme.com", {"eng"}⟩

/-- Calls of a task, where everyone may request and each call is offered an id of its own. -/
def calls (task first n : Nat) : List (services ⟨.deferred, .standard⟩).Move :=
  (List.range n).map fun k => .proceed task { Surroundings.plain with
    id := toString (first + k)
    mayRequest := fun _ _ => .ok true
    grant := fun _ _ => some (.ok []) }

/-- A preflight, and two submissions of it that make their calls in turn. -/
def moves : List (services ⟨.deferred, .standard⟩).Move :=
  .start (Operation.putTarget ⟨"t", "g", "rule", ∅, {"eng"}, ∅⟩) :: calls 0 0 1 ++
  .start (Operation.createPreflight alice ["t"]) :: calls 1 10 8 ++
  .start (Operation.createRequest alice ⟨"14", none, []⟩) ::
  .start (Operation.createRequest alice ⟨"14", none, []⟩) ::
  (List.range 15).flatMap fun k => calls 2 (100 + k) 1 ++ calls 3 (200 + k) 1

-- the workflow is asked once, and one request is stored
example :
    let s := run (World.fresh 50 ⟨0, 0⟩) moves
    (allAsked s.log).map (·.id) = ["13"] ∧ s.world.store.requests.keys = ["103"] := by
  decide +kernel

end TwoSubmissions

end Pool
end AccessGrants
