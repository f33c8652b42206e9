import AccessGrants.Store.Memory

/-!
# AccessGrants.Proofs.Store.Answers

What the store in memory answers to a call on a deployment, and what it leaves.

* `upsert_of_allowed`, `upsert_of_denied`              — a registration goes by its guard.
* `assign_of_free`, `assign_of_taken`, `assign_of_denied` — an assignment needs a free deployment with
                                                         its provider and a free target group.
* `clear_of_bound`, `clear_of_denied`                  — a clearing needs the binding that it names.
-/

namespace AccessGrants
namespace MemoryStore

variable {s : MemoryStore} {d : Deployment} {a : Assignment} {guard : AssignmentGuard}
  {id g k : String} {p : Provider}

theorem upsert_of_allowed (h : allows guard s.deployments[d.id]? = true) :
    s.upsertDeployment d guard =
      (.ok (merged d s.deployments[d.id]?),
        { s with deployments := s.deployments.insert d.id (merged d s.deployments[d.id]?) }) := by
  simp [upsertDeployment, h]

theorem upsert_of_denied (h : allows guard s.deployments[d.id]? = false) :
    s.upsertDeployment d guard = (.error .conditionFailed, s) := by
  simp [upsertDeployment, h]

theorem assign_of_free (hd : s.deployments[id]? = some d) (hfree : d.isAssigned = false)
    (hl : s.links[a.targetGroupId]? = none) :
    s.assignDeployment id d.provider a =
      (.ok { d with assignment := some a },
        { s with
          deployments := s.deployments.insert id { d with assignment := some a }
          links := s.links.insert a.targetGroupId id }) := by
  simp [assignDeployment, hd, hfree, Std.ExtTreeMap.contains_eq_isSome_getElem?, hl]

theorem assign_of_taken (hd : s.deployments[id]? = some d)
    (hl : s.links[a.targetGroupId]? = some k) :
    s.assignDeployment id d.provider a = (.error .conditionFailed, s) := by
  simp [assignDeployment, hd, Std.ExtTreeMap.contains_eq_isSome_getElem?, hl]

theorem assign_of_denied
    (h : ∀ d, s.deployments[id]? = some d → ¬ (d.provider = p ∧ d.isAssigned = false)) :
    s.assignDeployment id p a = (.error .conditionFailed, s) := by
  rw [assignDeployment]
  cases hd : s.deployments[id]? with
  | none => rfl
  | some d =>
    by_cases hp : d.provider = p
    · have hassigned : d.isAssigned = true := by simpa using fun hfree => h d hd ⟨hp, hfree⟩
      exact if_pos (.inl hassigned)
    · exact if_pos (.inr hp)

theorem clear_of_bound (hd : s.deployments[id]? = some d) (hg : d.assignedTo g = true) :
    s.clearAssignment id g =
      (.ok { d with assignment := none },
        { s with
          deployments := s.deployments.insert id { d with assignment := none }
          links := if s.links[g]? = some id then s.links.erase g else s.links }) := by
  simp [clearAssignment, hd, hg]

theorem clear_of_denied (h : ∀ d, s.deployments[id]? = some d → ¬ d.assignedTo g = true) :
    s.clearAssignment id g = (.error .conditionFailed, s) := by
  rw [clearAssignment]
  cases hd : s.deployments[id]? with
  | none => rfl
  | some d => exact if_pos (h d hd)

end MemoryStore
end AccessGrants
