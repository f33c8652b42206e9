import AccessGrants.Service.Workflow
import Mathlib.Data.List.Nodup

/-!
# AccessGrants.Proofs.Requests.Settlement

What a revocation writes, grant by grant. Whether the workflow answers with revoked copies or
refuses, every grant is settled: it expires when its end has come, is revoked when it is still
active, and stays as it is when it is final.

* `Grant.settle`          — the settled grant.
* `AccessRequest.SameAs`  — two versions of one request.
* `AccessRequest.outcome` — the request that is written, from what was read and was answered.
* `outcome_grants`        — its grants are the settled ones.
* `revoked_iff`           — the workflow has revoked the grants that are settled as revoked.
-/

namespace AccessGrants

namespace Grant

def revokedAs (actorId : String) (g : Grant) : Grant :=
  { g with status := .revoked, revokedBy := some actorId }

def settle (actorId : String) (now : Instant) (g : Grant) : Grant :=
  if g.elapsed now then { g with status := .expired }
  else if g.isActive then g.revokedAs actorId else g

@[simp] theorem revokedAs_id (a : String) (g : Grant) : (g.revokedAs a).id = g.id := rfl

@[simp] theorem settle_id (a : String) (t : Instant) (g : Grant) : (g.settle a t).id = g.id := by
  unfold settle
  split
  · rfl
  · split <;> rfl

@[simp] theorem expireIfElapsed_id (t : Instant) (g : Grant) : (g.expireIfElapsed t).id = g.id := by
  unfold expireIfElapsed
  split <;> rfl

theorem settle_of_final {a : String} {t : Instant} {g : Grant} (h : g.isActive = false) :
    g.settle a t = g := by
  simp [settle, elapsed, h]

/-- Settling is expiring first and revoking what is still active. -/
theorem settle_eq (a : String) (t : Instant) (g : Grant) :
    g.settle a t = if (g.expireIfElapsed t).isActive then (g.expireIfElapsed t).revokedAs a
      else g.expireIfElapsed t := by
  unfold settle expireIfElapsed
  by_cases h : g.elapsed t = true
  · simp [h, isActive]
  · simp [h]

/-- A settled grant is final; a revoked one names its revoker and an expired one keeps its own. -/
theorem settle_active {a : String} {t : Instant} {g : Grant} (h : g.isActive = true) :
    ((g.settle a t).status = .expired ∧ (g.settle a t).revokedBy = g.revokedBy) ∨
    ((g.settle a t).status = .revoked ∧ (g.settle a t).revokedBy = some a) := by
  unfold settle
  split
  · exact .inl ⟨rfl, rfl⟩
  · exact .inr ⟨rfl, rfl⟩

theorem isActive_of_expireIfElapsed {t : Instant} {g : Grant}
    (h : (g.expireIfElapsed t).isActive = true) : g.isActive = true := by
  unfold expireIfElapsed at h
  split at h
  · cases h
  · exact h

/-- A grant that is settled as revoked has not expired before. -/
theorem expireIfElapsed_isActive {a : String} {t : Instant} {g : Grant} (h : g.isActive = true)
    (hs : (g.settle a t).status = .revoked) : (g.expireIfElapsed t).isActive = true := by
  unfold expireIfElapsed
  unfold settle at hs
  split
  · rename_i he
    rw [if_pos he] at hs
    cases hs
  · exact h

theorem revoke_toOption (g : Grant) (a : String) :
    (g.revoke a).toOption = if g.isActive then some (g.revokedAs a) else none := by
  unfold revoke isActive GrantStatus.isTerminal
  by_cases h : g.status = .active
  · simp [h, Except.toOption, revokedAs]
  · simp [h, Except.toOption]

end Grant

namespace LocalWorkflow

variable {r : AccessRequest} {a : String}

theorem revoke_of_bare (h : r.grants = []) : revoke r a = .error .noGrant := by
  rw [revoke, h]
  rfl

theorem revoked_copies (grants : List Grant) (a : String) :
    ((grants.filter (·.isActive)).filterMap fun g => (g.revoke a).toOption) =
      (grants.filter (·.isActive)).map (·.revokedAs a) := by
  rw [← List.filterMap_eq_map]
  refine List.filterMap_congr fun g hg => ?_
  rw [Grant.revoke_toOption, if_pos (List.mem_filter.mp hg).2]
  rfl

theorem revoke_of_inactive (hne : r.grants ≠ []) (h : ∀ g ∈ r.grants, g.isActive = false) :
    revoke r a = .error .grantInactive := by
  have hnone : r.grants.filter (·.isActive) = [] :=
    List.filter_eq_nil_iff.mpr fun g hg => Bool.eq_false_iff.mp (h g hg)
  rw [revoke, if_neg (by simpa using hne), revoked_copies, hnone]
  rfl

theorem revoke_of_active {g : Grant} (hg : g ∈ r.grants) (h : g.isActive = true) :
    revoke r a = .ok ((r.grants.filter (·.isActive)).map (·.revokedAs a)) := by
  have hsome : r.grants.filter (·.isActive) ≠ [] := List.ne_nil_of_mem (List.mem_filter.mpr ⟨hg, h⟩)
  rw [revoke, if_neg (by simpa using List.ne_nil_of_mem hg), revoked_copies]
  exact if_neg (by simpa using hsome)

/-- The workflow answers with revoked copies of the active grants, and refuses when there are none. -/
theorem revoke_cases (r : AccessRequest) (a : String) :
    (∃ e, revoke r a = .error e ∧ ∀ g ∈ r.grants, g.isActive = false) ∨
    revoke r a = .ok ((r.grants.filter (·.isActive)).map (·.revokedAs a)) := by
  by_cases hactive : ∃ g ∈ r.grants, g.isActive = true
  · obtain ⟨g, hg, h⟩ := hactive
    exact .inr (revoke_of_active hg h)
  · have hnone : ∀ g ∈ r.grants, g.isActive = false := by simpa using hactive
    by_cases hnil : r.grants = []
    · exact .inl ⟨_, revoke_of_bare hnil, hnone⟩
    · exact .inl ⟨_, revoke_of_inactive hnil hnone, hnone⟩

end LocalWorkflow

namespace AccessRequest

/-- Two versions of one request. -/
def SameAs (r r' : AccessRequest) : Prop :=
  r.id = r'.id ∧ r.preflightId = r'.preflightId ∧ r.requestedBy = r'.requestedBy

theorem SameAs.refl (r : AccessRequest) : r.SameAs r := ⟨rfl, rfl, rfl⟩

theorem SameAs.trans {a b c : AccessRequest} (h : a.SameAs b) (h' : b.SameAs c) : a.SameAs c :=
  ⟨h.1.trans h'.1, h.2.1.trans h'.2.1, h.2.2.trans h'.2.2⟩

theorem expireElapsed_sameAs (r : AccessRequest) (t : Instant) :
    (r.expireElapsed t).1.SameAs r := by
  unfold expireElapsed
  split <;> exact ⟨rfl, rfl, rfl⟩

theorem applyUpdates_sameAs (r : AccessRequest) (updated : List Grant) (t : Instant) :
    (r.applyUpdates updated t).1.SameAs r := by
  simp only [applyUpdates]
  split <;> exact ⟨rfl, rfl, rfl⟩

variable {r : AccessRequest} {a : String} {t : Instant}

/-- The grant with an id. -/
def grant? (r : AccessRequest) (id : String) : Option Grant :=
  r.grants.find? fun g => g.id = id

theorem grant?_of_mem (hn : (r.grants.map (·.id)).Nodup) {g : Grant} (hg : g ∈ r.grants) :
    r.grant? g.id = some g := by
  cases hfind : r.grant? g.id with
  | none => exact absurd (decide_eq_true (Eq.refl g.id)) (List.find?_eq_none.mp hfind g hg)
  | some u =>
    have hid := List.find?_some hfind
    rw [List.inj_on_of_nodup_map hn (List.mem_of_find?_eq_some hfind) hg (of_decide_eq_true hid)]

theorem mem_of_grant? {id : String} {g : Grant} (h : r.grant? id = some g) :
    g ∈ r.grants ∧ g.id = id := by
  have hid := List.find?_some h
  exact ⟨List.mem_of_find?_eq_some h, of_decide_eq_true hid⟩

theorem grant?_of_map {q : AccessRequest} {f : Grant → Grant} (h : q.grants = r.grants.map f)
    (hf : ∀ g, (f g).id = g.id) (id : String) : q.grant? id = (r.grant? id).map f := by
  have hid : (fun g : Grant => decide (g.id = id)) ∘ f = fun g => decide (g.id = id) := by
    funext g
    simp [hf]
  rw [grant?, h, List.find?_map, hid]
  rfl

theorem exists_grant? {q : AccessRequest} (h : q.grants.map (·.id) = r.grants.map (·.id))
    {id : String} {g : Grant} (hg : r.grant? id = some g) : ∃ g', q.grant? id = some g' := by
  obtain ⟨hmem, rfl⟩ := mem_of_grant? hg
  have hid : g.id ∈ q.grants.map (·.id) := by
    rw [h]
    exact List.mem_map_of_mem hmem
  obtain ⟨g', hg', hid'⟩ := List.mem_map.mp hid
  cases hfind : q.grant? g.id with
  | none => exact absurd (decide_eq_true hid') (List.find?_eq_none.mp hfind g' hg')
  | some u => exact ⟨u, rfl⟩

theorem grants_mapGrants (r : AccessRequest) (f : Grant → Grant) :
    (r.mapGrants f).grants = r.grants.map f := by
  simp [grants, mapGrants, List.flatMap_map, List.map_flatMap]

theorem grants_expireElapsed (r : AccessRequest) (t : Instant) :
    (r.expireElapsed t).1.grants = r.grants.map (·.expireIfElapsed t) := by
  unfold expireElapsed
  split
  · exact grants_mapGrants r _
  · rename_i h
    have hsame : ∀ g ∈ r.grants, g.expireIfElapsed t = g := by
      intro g hg
      have he : g.elapsed t = false := by
        simp only [List.any_eq_true, not_exists, not_and] at h
        simpa using h g hg
      simp [Grant.expireIfElapsed, he]
    exact ((List.map_congr_left hsame).trans (List.map_id r.grants)).symm

theorem grants_applyUpdates (r : AccessRequest) (updated : List Grant) (t : Instant) :
    (r.applyUpdates updated t).1.grants =
      r.grants.map fun g => (update? updated g).getD g := by
  simp only [applyUpdates]
  split
  · exact grants_mapGrants r _
  · exact grants_mapGrants r _

/-- The request that is written, from what was read, when, and what the workflow answered. -/
def outcome (r : AccessRequest) (t : Instant) : Except WorkflowError (List Grant) → AccessRequest
  | .ok revoked => ((r.expireElapsed t).1.applyUpdates revoked t).1
  | .error _ => (r.expireElapsed t).1

theorem outcome_sameAs (r : AccessRequest) (t : Instant) (v : Except WorkflowError (List Grant)) :
    (r.outcome t v).SameAs r := by
  cases v with
  | error e => exact r.expireElapsed_sameAs t
  | ok revoked =>
    exact ((r.expireElapsed t).1.applyUpdates_sameAs revoked t).trans (r.expireElapsed_sameAs t)

/-- Among grants with distinct ids the copy of a grant is found by its id. -/
theorem update?_revoked {grants : List Grant} (hn : (grants.map (·.id)).Nodup) {g : Grant}
    (hg : g ∈ grants) :
    update? ((grants.filter (·.isActive)).map (·.revokedAs a)) g =
      if g.isActive then some (g.revokedAs a) else none := by
  have same : ∀ u ∈ grants, u.id = g.id → u = g := fun u hu hid =>
    List.inj_on_of_nodup_map hn hu hg hid
  rw [update?, List.find?_map]
  cases hfind : (grants.filter (·.isActive)).find?
      ((fun u => decide (u.id = g.id)) ∘ (·.revokedAs a)) with
  | none =>
    have hnone := List.find?_eq_none.mp hfind g
    have hact : ¬ g.isActive = true := fun hact => hnone (List.mem_filter.mpr ⟨hg, hact⟩) (by simp)
    rw [if_neg hact]
    rfl
  | some u =>
    obtain ⟨hu, hact⟩ := List.mem_filter.mp (List.mem_of_find?_eq_some hfind)
    have hid := List.find?_some hfind
    obtain rfl : u = g := same u hu (of_decide_eq_true hid)
    rw [if_pos hact]
    rfl

theorem outcome_grants (hn : (r.grants.map (·.id)).Nodup) :
    (r.outcome t (LocalWorkflow.revoke (r.expireElapsed t).1 a)).grants =
      r.grants.map (·.settle a t) := by
  have hn' : ((r.expireElapsed t).1.grants.map (·.id)).Nodup := by
    rw [grants_expireElapsed, List.map_map]
    simpa [Function.comp_def] using hn
  rcases LocalWorkflow.revoke_cases (r.expireElapsed t).1 a with ⟨e, he, hnone⟩ | hok
  · rw [he, outcome, grants_expireElapsed]
    refine List.map_congr_left fun g hg => ?_
    rw [Grant.settle_eq, if_neg]
    rw [grants_expireElapsed] at hnone
    simpa using hnone _ (List.mem_map_of_mem hg)
  · rw [hok, outcome, grants_applyUpdates, grants_expireElapsed, List.map_map]
    refine List.map_congr_left fun g hg => ?_
    rw [grants_expireElapsed] at hn'
    rw [Function.comp, update?_revoked hn' (List.mem_map_of_mem hg), Grant.settle_eq]
    split
    · rfl
    · rfl

/-- The workflow answers with a copy of a grant exactly when the grant was active and is settled as
revoked. -/
theorem revoked_iff (hn : (r.grants.map (·.id)).Nodup) {id : String} :
    (∃ revoked, LocalWorkflow.revoke (r.expireElapsed t).1 a = .ok revoked ∧
      ∃ g ∈ revoked, g.id = id) ↔
    ∃ seen, r.grant? id = some seen ∧ seen.isActive = true ∧
      (seen.settle a t).status = .revoked := by
  have hcases := LocalWorkflow.revoke_cases (r.expireElapsed t).1 a
  rw [grants_expireElapsed] at hcases
  constructor
  · rintro ⟨revoked, hv, g, hg, rfl⟩
    rw [hv] at hcases
    rcases hcases with ⟨e, he, -⟩ | hok
    · cases he
    · cases hok
      obtain ⟨u, hu, rfl⟩ := List.mem_map.mp hg
      obtain ⟨hu, hact⟩ := List.mem_filter.mp hu
      obtain ⟨seen, hseen, rfl⟩ := List.mem_map.mp hu
      refine ⟨seen, ?_, ?_, ?_⟩
      · rw [Grant.revokedAs_id, Grant.expireIfElapsed_id]
        exact grant?_of_mem hn hseen
      · exact Grant.isActive_of_expireIfElapsed hact
      · rw [Grant.settle_eq, if_pos hact]
        rfl
  · rintro ⟨seen, hseen, hact, hrev⟩
    obtain ⟨hmem, rfl⟩ := mem_of_grant? hseen
    have hstill := Grant.expireIfElapsed_isActive hact hrev
    have hmem' := List.mem_map_of_mem (f := (·.expireIfElapsed t)) hmem
    rcases hcases with ⟨e, -, hnone⟩ | hok
    · rw [hnone _ hmem'] at hstill
      cases hstill
    · refine ⟨_, hok, (seen.expireIfElapsed t).revokedAs a, ?_, by simp⟩
      exact List.mem_map_of_mem (List.mem_filter.mpr ⟨hmem', hstill⟩)

theorem revoked_nodup (hn : (r.grants.map (·.id)).Nodup) {revoked : List Grant}
    (hv : LocalWorkflow.revoke (r.expireElapsed t).1 a = .ok revoked) :
    (revoked.map (·.id)).Nodup := by
  rcases LocalWorkflow.revoke_cases (r.expireElapsed t).1 a with ⟨e, he, -⟩ | hok
  · rw [he] at hv
    cases hv
  · rw [hok] at hv
    cases hv
    rw [grants_expireElapsed, List.map_map]
    have hids : ((r.grants.map (·.expireIfElapsed t)).map (·.id)).Nodup := by
      rw [List.map_map]
      simpa [Function.comp_def] using hn
    exact hids.sublist (List.filter_sublist.map _)

end AccessRequest
end AccessGrants
