import AccessGrants.Proofs.Store.Frames

/-!
# AccessGrants.Proofs.Store.Links

The index of links and the assignments of the deployments say the same thing, after any sequence
of store calls.

* `assignmentOf`  — the view of the store that matters here: the assignment of every deployment.
* `LinksAgree`    — a target group is linked to a deployment exactly when the deployment is
                    assigned to it.
* `perform_agree` — every call preserves this, whether it succeeds or fails.
* `run_links`     — so it holds after every run from an empty store; with it, no two deployments
                    share a target group and a look-up by target group is exact.
-/

namespace AccessGrants
namespace MemoryStore

/-- The state after a sequence of calls. -/
def run (s : MemoryStore) (calls : List StoreCall) : MemoryStore :=
  calls.foldl (fun s c => (s.perform c).2) s

/-- The assignment of a deployment; none for one that is free or not stored. -/
def assignmentOf (s : MemoryStore) (id : String) : Option Assignment :=
  s.deployments[id]?.bind (·.assignment)

/-- A stored deployment is assigned to a target group. -/
def Assigned (s : MemoryStore) (id targetGroupId : String) : Prop :=
  ∃ d, s.deployments[id]? = some d ∧ d.assignedTo targetGroupId = true

theorem assignedTo_iff {d : Deployment} {g : String} :
    d.assignedTo g = true ↔ ∃ a, d.assignment = some a ∧ a.targetGroupId = g := by
  cases h : d.assignment <;> simp [Deployment.assignedTo, h]

theorem assigned_iff {s : MemoryStore} {id g : String} :
    s.Assigned id g ↔ ∃ a, s.assignmentOf id = some a ∧ a.targetGroupId = g := by
  simp only [Assigned, assignmentOf, assignedTo_iff, Option.bind_eq_some_iff]
  constructor
  · rintro ⟨d, hd, a, ha, hg⟩
    exact ⟨a, ⟨d, hd, ha⟩, hg⟩
  · rintro ⟨a, ⟨d, hd, ha⟩, hg⟩
    exact ⟨d, hd, a, ha, hg⟩

theorem assigned_unique {s : MemoryStore} {id g h : String} (hg : s.Assigned id g)
    (hh : s.Assigned id h) : g = h := by
  obtain ⟨a, ha, rfl⟩ := assigned_iff.mp hg
  obtain ⟨b, hb, rfl⟩ := assigned_iff.mp hh
  rw [ha] at hb
  cases hb; rfl

/-! ## What each writer does -/

theorem upsertDeployment_view (s : MemoryStore) (d : Deployment) (guard : AssignmentGuard) :
    (s.upsertDeployment d guard).2.links = s.links ∧
      (s.upsertDeployment d guard).2.assignmentOf = s.assignmentOf := by
  simp only [upsertDeployment]
  split
  · refine ⟨rfl, funext fun id => ?_⟩
    simp only [assignmentOf, getElem?_insert_row]
    split
    · rename_i h; subst h; simp [merged]
    · rfl
  · exact ⟨rfl, rfl⟩

theorem assignDeployment_view (s : MemoryStore) (id : String) (p : Provider) (a : Assignment) :
    (s.assignDeployment id p a).2 = s ∨
      s.assignmentOf id = none ∧ s.links[a.targetGroupId]? = none ∧
      (s.assignDeployment id p a).2.links = s.links.insert a.targetGroupId id ∧
      ∀ k, (s.assignDeployment id p a).2.assignmentOf k =
        if id = k then some a else s.assignmentOf k := by
  simp only [assignDeployment]
  split
  · exact .inl rfl
  · rename_i d hd
    split
    · exact .inl rfl
    · rename_i hfree
      split
      · exact .inl rfl
      · rename_i hlink
        have hfree : d.assignment = none := by simpa [Deployment.isAssigned] using (not_or.mp hfree).1
        refine .inr ⟨by simp [assignmentOf, hd, hfree], ?_, rfl, fun k => ?_⟩
        · rw [Std.ExtTreeMap.contains_eq_isSome_getElem?] at hlink
          simpa using hlink
        · simp only [assignmentOf, getElem?_insert_row]
          split <;> rfl

theorem clearAssignment_view (s : MemoryStore) (id g : String) :
    (s.clearAssignment id g).2 = s ∨
      s.Assigned id g ∧
      (s.clearAssignment id g).2.links =
        (if s.links[g]? = some id then s.links.erase g else s.links) ∧
      ∀ k, (s.clearAssignment id g).2.assignmentOf k =
        if id = k then none else s.assignmentOf k := by
  simp only [clearAssignment]
  split
  · exact .inl rfl
  · rename_i d hd
    split
    · exact .inl rfl
    · rename_i hg
      refine .inr ⟨⟨d, hd, by simpa using hg⟩, rfl, fun k => ?_⟩
      simp only [assignmentOf, getElem?_insert_row]
      split <;> rfl

/-- The calls that may change an assignment or a link. -/
def bindsOrFrees : StoreCall → Bool
  | .assignDeployment _ _ _ | .clearAssignment _ _ => true
  | _ => false

theorem perform_view {s : MemoryStore} {c : StoreCall} (hc : bindsOrFrees c = false) :
    (s.perform c).2.links = s.links ∧ (s.perform c).2.assignmentOf = s.assignmentOf := by
  cases c with
  | assignDeployment id p a => cases hc
  | clearAssignment id g => cases hc
  | upsertDeployment d guard => exact upsertDeployment_view s d guard
  | insertTargetGroup g =>
    simp only [perform, insertTargetGroup]
    split <;> exact ⟨rfl, rfl⟩
  | claimPreflight id u t =>
    simp only [perform, claimPreflight]
    split <;> exact ⟨rfl, rfl⟩
  | _ => exact ⟨rfl, rfl⟩

/-! ## The invariant -/

/-- A target group is linked to a deployment exactly when the deployment is assigned to it. -/
def LinksAgree (s : MemoryStore) : Prop :=
  ∀ g id, s.links[g]? = some id ↔ s.Assigned id g

theorem LinksAgree.of_view {s s' : MemoryStore} (hl : s'.links = s.links)
    (ha : s'.assignmentOf = s.assignmentOf) (h : s.LinksAgree) : s'.LinksAgree := by
  intro g id
  rw [hl, h g id, assigned_iff, assigned_iff, ha]

theorem empty_agree (pageSize : Nat) : (empty pageSize).LinksAgree := by
  intro g id
  simp [empty, Assigned]

/-- Both sides of a successful assignment are new, so the bijection grows by one pair. -/
theorem assign_agree {s : MemoryStore} (h : s.LinksAgree) (id : String) (p : Provider)
    (a : Assignment) : (s.assignDeployment id p a).2.LinksAgree := by
  rcases assignDeployment_view s id p a with hs | ⟨hfree, hlink, hl, hv⟩
  · rw [hs]; exact h
  · intro g k
    rw [hl, getElem?_insert_row, assigned_iff, hv]
    by_cases hg : a.targetGroupId = g
    · subst hg
      rw [if_pos rfl]
      constructor
      · intro hk
        cases hk
        exact ⟨a, if_pos rfl, rfl⟩
      · rintro ⟨b, hb, hbg⟩
        split at hb
        · rename_i hk; rw [hk]
        · have hk : s.links[a.targetGroupId]? = some k := (h _ _).mpr (assigned_iff.mpr ⟨b, hb, hbg⟩)
          rw [hlink] at hk
          cases hk
    · rw [if_neg hg, h g k, assigned_iff]
      split
      · rename_i hk
        subst hk
        simp [hfree, hg]
      · rfl

/-- The link of a cleared deployment is the one of its group, so exactly this pair goes. -/
theorem clear_agree {s : MemoryStore} (h : s.LinksAgree) (id g : String) :
    (s.clearAssignment id g).2.LinksAgree := by
  rcases clearAssignment_view s id g with hs | ⟨hbound, hl, hv⟩
  · rw [hs]; exact h
  · intro x k
    have hlink : s.links[g]? = some id := (h g id).mpr hbound
    rw [hl, if_pos hlink, getElem?_erase_row, assigned_iff, hv]
    by_cases hx : g = x
    · subst hx
      rw [if_pos rfl]
      constructor
      · intro hk; cases hk
      · rintro ⟨b, hb, hbg⟩
        split at hb
        · cases hb
        · rename_i hk
          have hk' : s.links[g]? = some k := (h g k).mpr (assigned_iff.mpr ⟨b, hb, hbg⟩)
          rw [hlink] at hk'
          cases hk'
          exact absurd rfl hk
    · rw [if_neg hx, h x k]
      split
      · rename_i hk
        subst hk
        constructor
        · intro hb; exact absurd (assigned_unique hbound hb) hx
        · rintro ⟨b, hb, -⟩; cases hb
      · exact assigned_iff

theorem perform_agree {s : MemoryStore} (h : s.LinksAgree) (c : StoreCall) :
    (s.perform c).2.LinksAgree := by
  cases hc : bindsOrFrees c with
  | false => exact .of_view (perform_view hc).1 (perform_view hc).2 h
  | true =>
    cases c with
    | assignDeployment id p a => exact assign_agree h id p a
    | clearAssignment id g => exact clear_agree h id g
    | _ => cases hc

theorem run_agree {s : MemoryStore} (h : s.LinksAgree) (calls : List StoreCall) :
    (s.run calls).LinksAgree := by
  induction calls generalizing s with
  | nil => exact h
  | cons c calls ih => exact ih (perform_agree h c)

/-! ## What follows from it -/

theorem LinksAgree.injective {s : MemoryStore} (h : s.LinksAgree) {g id id' : String}
    (hi : s.Assigned id g) (hi' : s.Assigned id' g) : id = id' := by
  have := (h g id).mpr hi
  rw [(h g id').mpr hi'] at this
  cases this; rfl

theorem LinksAgree.findDeployment_eq_some {s : MemoryStore} (h : s.LinksAgree) {g : String}
    {d : Deployment} :
    s.findDeployment g = some d ↔
      ∃ id : String, s.deployments[id]? = some d ∧ d.assignedTo g = true := by
  simp only [findDeployment, Option.bind_eq_some_iff]
  constructor
  · rintro ⟨id, hl, hd⟩
    obtain ⟨d', hd', hg⟩ := (h g id).mp hl
    rw [hd] at hd'
    cases hd'
    exact ⟨id, hd, hg⟩
  · rintro ⟨id, hd, hg⟩
    exact ⟨id, (h g id).mpr ⟨d, hd, hg⟩, hd⟩

theorem LinksAgree.findDeployment_eq_none {s : MemoryStore} (h : s.LinksAgree) {g : String} :
    s.findDeployment g = none ↔ ∀ id, ¬ s.Assigned id g := by
  constructor
  · rintro hn id ⟨d, hd, hg⟩
    rw [h.findDeployment_eq_some.mpr ⟨id, hd, hg⟩] at hn
    cases hn
  · intro hn
    cases hf : s.findDeployment g with
    | none => rfl
    | some d =>
      obtain ⟨id, hd, hg⟩ := h.findDeployment_eq_some.mp hf
      exact absurd ⟨d, hd, hg⟩ (hn id)

theorem perform_assignmentOf_ne {s : MemoryStore} {c : StoreCall} {id : String}
    (h : (s.perform c).2.assignmentOf id ≠ s.assignmentOf id) :
    (∃ p a, c = .assignDeployment id p a) ∨ ∃ g, c = .clearAssignment id g := by
  cases hc : bindsOrFrees c with
  | false => exact absurd (congrFun (perform_view hc).2 id) h
  | true =>
    cases c with
    | assignDeployment k p a =>
      rcases assignDeployment_view s k p a with hs | ⟨-, -, -, hv⟩
      · exact absurd (by rw [perform, hs]) h
      · by_cases hk : k = id
        · exact .inl ⟨p, a, by rw [hk]⟩
        · exact absurd (by rw [perform, hv, if_neg hk]) h
    | clearAssignment k g =>
      rcases clearAssignment_view s k g with hs | ⟨-, -, hv⟩
      · exact absurd (by rw [perform, hs]) h
      · by_cases hk : k = id
        · exact .inr ⟨g, by rw [hk]⟩
        · exact absurd (by rw [perform, hv, if_neg hk]) h
    | _ => cases hc

/-- After any calls on an empty store, with any arguments and whether they succeed or fail, links
and assignments are in bijection: no two deployments are assigned to one target group, a look-up
by target group answers exactly the deployment assigned to it, and only an assignment or a
clearing that names a deployment changes its assignment. -/
theorem run_links (pageSize : Nat) (calls : List StoreCall) :
    let s := (empty pageSize).run calls
    (∀ g id, s.links[g]? = some id ↔ s.Assigned id g) ∧
    (∀ g id id', s.Assigned id g → s.Assigned id' g → id = id') ∧
    (∀ g d, (s.perform (.findDeployment g)).1 = .ok (some d) ↔
      ∃ id : String, s.deployments[id]? = some d ∧ d.assignedTo g = true) ∧
    (∀ g, (s.perform (.findDeployment g)).1 = .ok none ↔ ∀ id, ¬ s.Assigned id g) ∧
    (∀ c id, (s.perform c).2.assignmentOf id ≠ s.assignmentOf id →
      (∃ p a, c = .assignDeployment id p a) ∨ ∃ g, c = .clearAssignment id g) := by
  intro s
  have h : s.LinksAgree := run_agree (empty_agree pageSize) calls
  refine ⟨h, fun g id id' => h.injective, fun g d => ?_, fun g => ?_, fun c id =>
    perform_assignmentOf_ne⟩
  · rw [← h.findDeployment_eq_some, perform, Except.ok.injEq]
  · rw [← h.findDeployment_eq_none, perform, Except.ok.injEq]

end MemoryStore
end AccessGrants
