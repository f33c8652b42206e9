import AccessGrants.Store.Memory

/-!
# AccessGrants.Proofs.Store.Frames

Which calls change which table. There is one equation for each table; every call that it does not
name leaves the table as it is.

* `getElem?_insert_row`, `getElem?_erase_row` — rows of a table after a write.
* `perform_preflights`, `perform_requests`, `perform_targetGroups`, `perform_deployments`,
  `perform_targets`
-/

namespace AccessGrants
namespace MemoryStore

theorem getElem?_insert_row {t : Std.ExtTreeMap String α} {k id : String} {row : α} :
    (t.insert k row)[id]? = if k = id then some row else t[id]? := by
  simp [Std.ExtTreeMap.getElem?_insert]

theorem getElem?_erase_row {t : Std.ExtTreeMap String α} {k id : String} :
    (t.erase k)[id]? = if k = id then none else t[id]? := by
  simp [Std.ExtTreeMap.getElem?_erase]

/-! ## What each conditional write may touch -/

theorem insertTargetGroup_frame (s : MemoryStore) (group : TargetGroup) :
    ∃ t, (s.insertTargetGroup group).2 = { s with targetGroups := t } := by
  unfold insertTargetGroup
  split
  · exact ⟨s.targetGroups, rfl⟩
  · exact ⟨_, rfl⟩

theorem upsertDeployment_frame (s : MemoryStore) (d : Deployment) (guard : AssignmentGuard) :
    ∃ t, (s.upsertDeployment d guard).2 = { s with deployments := t } := by
  simp only [upsertDeployment]
  split
  · exact ⟨_, rfl⟩
  · exact ⟨s.deployments, rfl⟩

theorem assignDeployment_frame (s : MemoryStore) (id : String) (p : Provider) (a : Assignment) :
    ∃ t l, (s.assignDeployment id p a).2 = { s with deployments := t, links := l } := by
  unfold assignDeployment
  split
  · exact ⟨s.deployments, s.links, rfl⟩
  · split
    · exact ⟨s.deployments, s.links, rfl⟩
    · split
      · exact ⟨s.deployments, s.links, rfl⟩
      · exact ⟨_, _, rfl⟩

theorem clearAssignment_frame (s : MemoryStore) (id targetGroupId : String) :
    ∃ t l, (s.clearAssignment id targetGroupId).2 = { s with deployments := t, links := l } := by
  unfold clearAssignment
  split
  · exact ⟨s.deployments, s.links, rfl⟩
  · split
    · exact ⟨s.deployments, s.links, rfl⟩
    · exact ⟨_, _, rfl⟩

theorem claimPreflight_frame (s : MemoryStore) (id userId : String) (now : Instant) :
    ∃ t, (s.claimPreflight id userId now).2 = { s with preflights := t } := by
  unfold claimPreflight
  split
  · exact ⟨s.preflights, rfl⟩
  · exact ⟨_, rfl⟩

/-! ## The tables -/

theorem perform_targetGroups (s : MemoryStore) (c : StoreCall) :
    (s.perform c).2.targetGroups =
      match c with
      | .insertTargetGroup group => (s.insertTargetGroup group).2.targetGroups
      | _ => s.targetGroups := by
  cases c with
  | upsertDeployment d guard =>
    obtain ⟨t, h⟩ := upsertDeployment_frame s d guard
    rw [perform, h]
  | assignDeployment id p a =>
    obtain ⟨t, l, h⟩ := assignDeployment_frame s id p a
    rw [perform, h]
  | clearAssignment id g =>
    obtain ⟨t, l, h⟩ := clearAssignment_frame s id g
    rw [perform, h]
  | claimPreflight id u now =>
    obtain ⟨t, h⟩ := claimPreflight_frame s id u now
    rw [perform, h]
  | _ => rfl

theorem perform_deployments (s : MemoryStore) (c : StoreCall) :
    (s.perform c).2.deployments =
      match c with
      | .upsertDeployment d guard => (s.upsertDeployment d guard).2.deployments
      | .assignDeployment id p a => (s.assignDeployment id p a).2.deployments
      | .clearAssignment id g => (s.clearAssignment id g).2.deployments
      | _ => s.deployments := by
  cases c with
  | insertTargetGroup group =>
    obtain ⟨t, h⟩ := insertTargetGroup_frame s group
    rw [perform, h]
  | claimPreflight id u now =>
    obtain ⟨t, h⟩ := claimPreflight_frame s id u now
    rw [perform, h]
  | _ => rfl

theorem perform_preflights (s : MemoryStore) (c : StoreCall) :
    (s.perform c).2.preflights =
      match c with
      | .putPreflight p => s.preflights.insert p.id p
      | .claimPreflight id u now => (s.claimPreflight id u now).2.preflights
      | _ => s.preflights := by
  cases c with
  | insertTargetGroup group =>
    obtain ⟨t, h⟩ := insertTargetGroup_frame s group
    rw [perform, h]
  | upsertDeployment d guard =>
    obtain ⟨t, h⟩ := upsertDeployment_frame s d guard
    rw [perform, h]
  | assignDeployment id p a =>
    obtain ⟨t, l, h⟩ := assignDeployment_frame s id p a
    rw [perform, h]
  | clearAssignment id g =>
    obtain ⟨t, l, h⟩ := clearAssignment_frame s id g
    rw [perform, h]
  | _ => rfl

theorem perform_requests (s : MemoryStore) (c : StoreCall) :
    (s.perform c).2.requests =
      match c with
      | .putRequest r => s.requests.insert r.id r
      | _ => s.requests := by
  cases c with
  | insertTargetGroup group =>
    obtain ⟨t, h⟩ := insertTargetGroup_frame s group
    rw [perform, h]
  | upsertDeployment d guard =>
    obtain ⟨t, h⟩ := upsertDeployment_frame s d guard
    rw [perform, h]
  | assignDeployment id p a =>
    obtain ⟨t, l, h⟩ := assignDeployment_frame s id p a
    rw [perform, h]
  | clearAssignment id g =>
    obtain ⟨t, l, h⟩ := clearAssignment_frame s id g
    rw [perform, h]
  | claimPreflight id u now =>
    obtain ⟨t, h⟩ := claimPreflight_frame s id u now
    rw [perform, h]
  | _ => rfl

theorem perform_targets (s : MemoryStore) (c : StoreCall) :
    (s.perform c).2.targets =
      match c with
      | .putTarget t => s.targets.insert t.id t
      | _ => s.targets := by
  cases c with
  | insertTargetGroup group =>
    obtain ⟨t, h⟩ := insertTargetGroup_frame s group
    rw [perform, h]
  | upsertDeployment d guard =>
    obtain ⟨t, h⟩ := upsertDeployment_frame s d guard
    rw [perform, h]
  | assignDeployment id p a =>
    obtain ⟨t, l, h⟩ := assignDeployment_frame s id p a
    rw [perform, h]
  | clearAssignment id g =>
    obtain ⟨t, l, h⟩ := clearAssignment_frame s id g
    rw [perform, h]
  | claimPreflight id u now =>
    obtain ⟨t, h⟩ := claimPreflight_frame s id u now
    rw [perform, h]
  | _ => rfl

/-- A stored target group never changes. -/
theorem targetGroup_stays {s : MemoryStore} {k : String} {group : TargetGroup}
    (h : s.targetGroups[k]? = some group) (c : StoreCall) :
    (s.perform c).2.targetGroups[k]? = some group := by
  rw [perform_targetGroups]
  split
  · rename_i new
    unfold insertTargetGroup
    split
    · exact h
    · rename_i hfree
      rw [getElem?_insert_row, if_neg]
      · exact h
      · rintro rfl
        rw [Std.ExtTreeMap.contains_eq_isSome_getElem?, h] at hfree
        exact hfree rfl
  · exact h

theorem targetGroup_of_perform {s : MemoryStore} {c : StoreCall} {k : String} {group : TargetGroup}
    (h : (s.perform c).2.targetGroups[k]? = some group) :
    s.targetGroups[k]? = some group ∨ group.id = k := by
  rw [perform_targetGroups] at h
  split at h
  · rename_i new
    unfold insertTargetGroup at h
    split at h
    · exact .inl h
    · rw [getElem?_insert_row] at h
      split at h
      · rename_i hk
        cases h
        exact .inr hk
      · exact .inl h
  · exact .inl h

end MemoryStore
end AccessGrants
