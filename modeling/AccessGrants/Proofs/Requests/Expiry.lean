import AccessGrants.Proofs.Requests.RevocationOutcome
import AccessGrants.Proofs.Store.Listings

/-!
# AccessGrants.Proofs.Requests.Expiry

What expiring the elapsed grants of a request does to it, and that it makes no difference when it was
done last.

* `Grant.Over`             — what there is to expire.
* `AccessRequest.undated`  — a request but for the time of its last update.
* `AccessRequest.seenAt`   — what of it can be seen at a time, again but for this time.
* `expireElapsed_over`     — exactly the grants that are over change, and only their status does.
* `seenAt_expireElapsed`   — having expired grants at an earlier time is not seen.
* `revoke_congr`, `applyUpdates_congr` — nor does it show in what a revocation does later.
-/

namespace AccessGrants

theorem Instant.le_trans {a b c : Instant} (hab : a ≤ b) (hbc : b ≤ c) : a ≤ c := by
  rw [Instant.le_iff] at *
  omega

namespace Grant

/-- An active grant whose end has come. -/
def Over (now : Instant) (g : Grant) : Prop :=
  g.status = .active ∧ g.stop ≤ now

instance (now : Instant) (g : Grant) : Decidable (g.Over now) :=
  inferInstanceAs (Decidable (_ ∧ _))

variable {g : Grant} {t t₁ t₂ : Instant}

theorem elapsed_iff : g.elapsed t = true ↔ g.Over t := by
  simp [elapsed, isActive, Over]

theorem expireIfElapsed_eq (g : Grant) (t : Instant) :
    g.expireIfElapsed t = if g.Over t then { g with status := .expired } else g :=
  if_congr elapsed_iff rfl rfl

theorem expireIfElapsed_of_not_over (h : ¬ g.Over t) : g.expireIfElapsed t = g := by
  rw [expireIfElapsed_eq, if_neg h]

/-- A grant that was over at an earlier time is over, and an expired one stays as it is. -/
theorem expireIfElapsed_expireIfElapsed (h : t₁ ≤ t₂) (g : Grant) :
    (g.expireIfElapsed t₁).expireIfElapsed t₂ = g.expireIfElapsed t₂ := by
  by_cases hover : g.Over t₁
  · have hlater : g.Over t₂ := ⟨hover.1, Instant.le_trans hover.2 h⟩
    rw [expireIfElapsed_eq g t₁, if_pos hover, expireIfElapsed_eq g t₂, if_pos hlater]
    refine expireIfElapsed_of_not_over ?_
    rintro ⟨hactive, -⟩
    cases hactive
  · rw [expireIfElapsed_of_not_over hover]

theorem expireIfElapsed_stop (g : Grant) (t : Instant) : (g.expireIfElapsed t).stop = g.stop := by
  unfold expireIfElapsed
  split <;> rfl

theorem lt_stop_of_active (h : (g.expireIfElapsed t).status = .active) :
    t < (g.expireIfElapsed t).stop := by
  rw [expireIfElapsed_stop]
  exact (isActive_expireIfElapsed_iff.mp (decide_eq_true h)).2

end Grant

namespace AccessRequest

/-- The request but for the time of its last update. -/
def undated (r : AccessRequest) : AccessRequest :=
  { r with updatedAt := r.createdAt }

/-- What can be seen of the request at a time, but for the time of its last update. -/
def seenAt (now : Instant) (r : AccessRequest) : AccessRequest :=
  (r.expireElapsed now).1.undated

variable {r r' : AccessRequest} {t t₁ t₂ now : Instant}

theorem eq_of_undated (h : r.undated = r'.undated) : r' = { r with updatedAt := r'.updatedAt } := by
  obtain ⟨id, p, u, reason, groups, reviewers, created, updated⟩ := r
  obtain ⟨id', p', u', reason', groups', reviewers', created', updated'⟩ := r'
  simp only [undated, mk.injEq] at h ⊢
  obtain ⟨rfl, rfl, rfl, rfl, rfl, rfl, rfl, -⟩ := h
  exact ⟨rfl, rfl, rfl, rfl, rfl, rfl, rfl, trivial⟩

theorem undated_mapGrants (r : AccessRequest) (f : Grant → Grant) :
    (r.mapGrants f).undated = r.undated.mapGrants f := rfl

/-! ## Expiring once -/

theorem any_elapsed_iff : r.grants.any (·.elapsed t) = true ↔ ∃ g ∈ r.grants, g.Over t := by
  simp only [List.any_eq_true, Grant.elapsed_iff]

theorem expireElapsed_flag : (r.expireElapsed t).2 = true ↔ ∃ g ∈ r.grants, g.Over t := by
  rw [← any_elapsed_iff, expireElapsed]
  split
  · rename_i h
    exact iff_of_true rfl h
  · rename_i h
    exact iff_of_false Bool.false_ne_true h

/-- Exactly the grants that are over expire. Without any the request stays as it is. -/
theorem expireElapsed_over (r : AccessRequest) (t : Instant) :
    (r.expireElapsed t).1 =
      if ∃ g ∈ r.grants, g.Over t then
        { r.mapGrants (fun g => if g.Over t then { g with status := .expired } else g) with
          updatedAt := t }
      else r := by
  rw [expireElapsed]
  split
  · rename_i h
    rw [if_pos (any_elapsed_iff.mp h)]
    simp only [Grant.expireIfElapsed_eq]
  · rename_i h
    rw [if_neg fun h' => h (any_elapsed_iff.mpr h')]

theorem seenAt_eq (now : Instant) (r : AccessRequest) :
    r.seenAt now = r.undated.mapGrants (·.expireIfElapsed now) := by
  rw [seenAt, expireElapsed]
  split
  · exact undated_mapGrants r _
  · rename_i h
    have hsame : r.mapGrants (·.expireIfElapsed now) = r := by
      refine (mapGrants_congr fun g hg => ?_).trans mapGrants_same
      exact Grant.expireIfElapsed_of_not_over fun hover => h (any_elapsed_iff.mpr ⟨g, hg, hover⟩)
    rw [← undated_mapGrants, hsame]

theorem lt_stop_of_mem_expireElapsed {g : Grant} (hg : g ∈ (r.expireElapsed now).1.grants)
    (h : g.status = .active) : now < g.stop := by
  rw [grants_expireElapsed] at hg
  obtain ⟨g, -, rfl⟩ := List.mem_map.mp hg
  exact Grant.lt_stop_of_active h

/-! ## Expiring again -/

/-- Whether elapsed grants were expired at an earlier time cannot be seen. -/
theorem seenAt_expireElapsed (h : t ≤ now) (r : AccessRequest) :
    ((r.expireElapsed t).1).seenAt now = r.seenAt now := by
  have hthen : (r.expireElapsed t).1.undated = r.undated.mapGrants (·.expireIfElapsed t) := seenAt_eq t r
  rw [seenAt_eq, hthen, mapGrants_mapGrants, seenAt_eq]
  exact mapGrants_congr fun g _ => Grant.expireIfElapsed_expireIfElapsed h g

theorem seenAt_self (r : AccessRequest) : ((r.expireElapsed now).1).seenAt now = r.seenAt now :=
  seenAt_expireElapsed (Instant.le_iff.mpr (.inr ⟨rfl, Nat.le_refl _⟩)) r

section Fields

variable (h : r.seenAt now = r'.seenAt now)

include h

theorem id_of_seenAt : r.id = r'.id := by
  simpa [seenAt_eq, undated, mapGrants] using congrArg AccessRequest.id h

theorem requestedBy_of_seenAt : r.requestedBy = r'.requestedBy := by
  simpa [seenAt_eq, undated, mapGrants] using congrArg AccessRequest.requestedBy h

theorem reviewers_of_seenAt : r.reviewers = r'.reviewers := by
  simpa [seenAt_eq, undated, mapGrants] using congrArg AccessRequest.reviewers h

end Fields

/-! ## Revoking later -/

/-- What is taken over does not depend on the time of the last update, if anything is taken over. -/
theorem applyUpdates_congr (now : Instant) {updated : List Grant} (h : r.undated = r'.undated)
    {g : Grant} (hg : g ∈ r.grants) (hu : (update? updated g).isSome = true) :
    (r.applyUpdates updated now).1 = (r'.applyUpdates updated now).1 := by
  have hcount : 0 < r.grants.countP fun g => (update? updated g).isSome :=
    List.countP_pos_iff.mpr ⟨g, hg, hu⟩
  have hcount' : 0 < r'.grants.countP fun g => (update? updated g).isSome := by
    rw [eq_of_undated h]
    exact hcount
  simp only [applyUpdates, if_pos hcount, if_pos hcount']
  rw [eq_of_undated h]
  rfl

theorem update?_of_active {a : String} {g : Grant} (hg : g ∈ r.grants) (h : g.isActive = true) :
    (update? ((r.grants.filter (·.isActive)).map (·.revokedAs a)) g).isSome = true := by
  rw [update?, List.find?_isSome]
  refine ⟨g.revokedAs a, List.mem_map_of_mem (List.mem_filter.mpr ⟨hg, h⟩), ?_⟩
  simp

end AccessRequest

namespace LocalWorkflow

theorem revoke_congr {r r' : AccessRequest} (h : r.undated = r'.undated) (a : String) :
    revoke r a = revoke r' a := by
  rw [AccessRequest.eq_of_undated h]
  rfl

theorem exists_active_of_revoke {r : AccessRequest} {a : String} {revoked : List Grant}
    (h : revoke r a = .ok revoked) : ∃ g ∈ r.grants, g.isActive = true := by
  by_contra hnone
  have hinactive : ∀ g ∈ r.grants, g.isActive = false := by simpa using hnone
  by_cases hbare : r.grants = []
  · rw [revoke_of_bare hbare] at h
    cases h
  · rw [revoke_of_inactive hbare hinactive] at h
    cases h

end LocalWorkflow

end AccessGrants
