import AccessGrants.Proofs.Store.Links
import Mathlib.Data.String.Basic

/-!
# AccessGrants.Proofs.Store.Rows

A table as the list of its rows.

* `Keyed`              — every row is stored under its own id.
* `mem_values`         — the rows are what a look-up finds.
* `Keyed.increasing`   — they are listed by id, each one once.
* `values_insert_perm` — a row that is stored stands beside the others.
* `values_filter_congr`, `values_map_congr` — tables that show the same under every key list the same.
* `run_filed`          — groups, targets and requests are keyed, after any calls on an empty store.
-/

namespace AccessGrants
namespace MemoryStore

section Tables

variable {t t' : Std.ExtTreeMap String α} {id : α → String}

/-- Every row is stored under its own id. -/
def Keyed (id : α → String) (t : Std.ExtTreeMap String α) : Prop :=
  ∀ (k : String) (row : α), t[k]? = some row → id row = k

theorem keyed_empty (id : α → String) : Keyed id (∅ : Std.ExtTreeMap String α) := by
  intro k row h
  simp at h

theorem Keyed.insert (h : Keyed id t) (new : α) : Keyed id (t.insert (id new) new) := by
  intro k row hk
  rw [getElem?_insert_row] at hk
  split at hk
  · rename_i hnew
    cases hk
    exact hnew
  · exact h k row hk

theorem values_eq (t : Std.ExtTreeMap String α) : t.values = t.toList.map Prod.snd := by
  induction t with
  | mk t =>
    induction t with
    | mk m =>
      show m.inner.values = (Std.DTreeMap.Internal.Impl.Const.toList m.inner).map Prod.snd
      rw [Std.DTreeMap.Internal.Impl.values_eq_map_snd,
        Std.DTreeMap.Internal.Impl.Const.toList_eq_toListModel_map, List.map_map]
      rfl

theorem mem_values {row : α} : row ∈ t.values ↔ ∃ k : String, t[k]? = some row := by
  rw [values_eq, List.mem_map]
  constructor
  · rintro ⟨⟨k, _⟩, hmem, rfl⟩
    exact ⟨k, Std.ExtTreeMap.mem_toList_iff_getElem?_eq_some.mp hmem⟩
  · rintro ⟨k, hk⟩
    exact ⟨(k, row), Std.ExtTreeMap.mem_toList_iff_getElem?_eq_some.mpr hk, rfl⟩

theorem Keyed.increasing (h : Keyed id t) : t.values.Pairwise fun a b => id a < id b := by
  rw [values_eq, List.pairwise_map]
  refine Std.ExtTreeMap.ordered_keys_toList.imp_of_mem fun {a b} ha hb hab => ?_
  rw [h a.1 a.2 (Std.ExtTreeMap.mem_toList_iff_getElem?_eq_some.mp ha),
    h b.1 b.2 (Std.ExtTreeMap.mem_toList_iff_getElem?_eq_some.mp hb)]
  exact compare_lt_iff_lt.mp hab

theorem Keyed.eq_of_id (h : Keyed id t) {a b : α} (ha : a ∈ t.values) (hb : b ∈ t.values)
    (hab : id a = id b) : a = b := by
  obtain ⟨k, hk⟩ := mem_values.mp ha
  obtain ⟨k', hk'⟩ := mem_values.mp hb
  rw [← h k a hk, hab, h k' b hk', hk'] at hk
  cases hk
  rfl

/-- What is listed under a condition is what the look-ups show under it. -/
theorem values_filter_congr {p : α → Bool}
    (h : ∀ k : String, t[k]?.filter p = t'[k]?.filter p) :
    t.values.filter p = t'.values.filter p := by
  have rows (t : Std.ExtTreeMap String α) : t.values.filter p = (t.filter fun _ row => p row).values := by
    rw [values_eq, values_eq, Std.ExtTreeMap.toList_filter, List.filter_map]
    rfl
  have same : (t.filter fun _ row => p row) = t'.filter fun _ row => p row := by
    refine Std.ExtTreeMap.ext_getElem? fun k => ?_
    rw [Std.ExtTreeMap.getElem?_filter', Std.ExtTreeMap.getElem?_filter', h k]
  rw [rows t, rows t', same]

/-- What is listed of the rows is what the look-ups show of them. -/
theorem values_map_congr {f : α → β} (h : ∀ k : String, t[k]?.map f = t'[k]?.map f) :
    t.values.map f = t'.values.map f := by
  have rows (t : Std.ExtTreeMap String α) : t.values.map f = (t.map fun _ row => f row).values := by
    rw [values_eq, values_eq, Std.ExtTreeMap.toList_map, List.map_map, List.map_map]
    rfl
  have same : (t.map fun _ row => f row) = t'.map fun _ row => f row := by
    refine Std.ExtTreeMap.ext_getElem? fun k => ?_
    rw [Std.ExtTreeMap.getElem?_map, Std.ExtTreeMap.getElem?_map]
    exact h k
  rw [rows t, rows t', same]

theorem toList_nodup (t : Std.ExtTreeMap String α) : t.toList.Nodup :=
  Std.ExtTreeMap.distinct_keys_toList.imp fun {a b} hne heq => hne (by rw [heq]; exact Std.ReflCmp.compare_self)

/-- A row that is stored and the others. -/
theorem values_perm_of_getElem? {k : String} {row : α} (h : t[k]? = some row) :
    t.values.Perm (row :: (t.erase k).values) := by
  have hrest : ((k, row) :: (t.erase k).toList).Nodup := by
    refine List.nodup_cons.mpr ⟨fun hmem => ?_, toList_nodup _⟩
    rw [Std.ExtTreeMap.mem_toList_iff_getElem?_eq_some, Std.ExtTreeMap.getElem?_erase] at hmem
    simp at hmem
  have hlist : t.toList.Perm ((k, row) :: (t.erase k).toList) := by
    refine (List.perm_ext_iff_of_nodup (toList_nodup t) hrest).mpr ?_
    rintro ⟨k', row'⟩
    rw [List.mem_cons, Std.ExtTreeMap.mem_toList_iff_getElem?_eq_some,
      Std.ExtTreeMap.mem_toList_iff_getElem?_eq_some, Std.ExtTreeMap.getElem?_erase]
    by_cases hk : k = k'
    · subst hk
      simp [h, eq_comm]
    · have hne : k' ≠ k := fun heq => hk heq.symm
      simp [hk, hne]
  rw [values_eq, values_eq]
  exact hlist.map Prod.snd

theorem insert_insert {k : String} {row row' : α} : (t.insert k row).insert k row' = t.insert k row' := by
  refine Std.ExtTreeMap.ext_getElem? fun k' => ?_
  rw [getElem?_insert_row, getElem?_insert_row, getElem?_insert_row]
  split <;> rfl

theorem erase_insert {k : String} {row : α} : (t.insert k row).erase k = t.erase k := by
  refine Std.ExtTreeMap.ext_getElem? fun k' => ?_
  by_cases hk : k = k'
  · simp [hk]
  · simp [Std.ExtTreeMap.getElem?_erase, Std.ExtTreeMap.getElem?_insert, hk]

/-- Whatever stood under its key before, a row that is stored stands beside the others. -/
theorem values_insert_perm (t : Std.ExtTreeMap String α) (k : String) (row : α) :
    (t.insert k row).values.Perm (row :: (t.erase k).values) := by
  have herase : (t.insert k row).erase k = t.erase k := erase_insert
  rw [← herase]
  exact values_perm_of_getElem? Std.ExtTreeMap.getElem?_insert_self

theorem insert_of_getElem?_eq_some {k : String} {row : α} (h : t[k]? = some row) :
    t.insert k row = t := by
  refine Std.ExtTreeMap.ext_getElem? fun k' => ?_
  rw [getElem?_insert_row]
  split
  · rename_i hk
    rw [← hk, h]
  · rfl

theorem erase_of_getElem?_eq_none {k : String} (h : t[k]? = none) : t.erase k = t := by
  refine Std.ExtTreeMap.ext_getElem? fun k' => ?_
  by_cases hk : k = k'
  · subst hk
    rw [Std.ExtTreeMap.getElem?_erase_self, h]
  · simp [Std.ExtTreeMap.getElem?_erase, hk]

end Tables

/-- The tables whose rows are listed are keyed by id. -/
structure Filed (s : MemoryStore) : Prop where
  targetGroups : Keyed TargetGroup.id s.targetGroups
  targets : Keyed Target.id s.targets
  requests : Keyed AccessRequest.id s.requests

theorem empty_filed (pageSize : Nat) : (empty pageSize).Filed :=
  ⟨keyed_empty _, keyed_empty _, keyed_empty _⟩

theorem Filed.perform {s : MemoryStore} (h : s.Filed) (c : StoreCall) : (s.perform c).2.Filed where
  targetGroups := by
    rw [perform_targetGroups]
    split
    · unfold insertTargetGroup
      split
      · exact h.targetGroups
      · exact h.targetGroups.insert _
    · exact h.targetGroups
  targets := by
    rw [perform_targets]
    split
    · exact h.targets.insert _
    · exact h.targets
  requests := by
    rw [perform_requests]
    split
    · exact h.requests.insert _
    · exact h.requests

theorem Filed.run {s : MemoryStore} (h : s.Filed) (calls : List StoreCall) : (s.run calls).Filed := by
  induction calls generalizing s with
  | nil => exact h
  | cons c calls ih => exact ih (h.perform c)

theorem run_filed (pageSize : Nat) (calls : List StoreCall) :
    ((empty pageSize).run calls).Filed :=
  (empty_filed pageSize).run calls

theorem perform_pageSize (s : MemoryStore) (c : StoreCall) :
    (s.perform c).2.pageSize = s.pageSize := by
  cases c with
  | insertTargetGroup group =>
    obtain ⟨t, h⟩ := insertTargetGroup_frame s group
    rw [MemoryStore.perform, h]
  | upsertDeployment d guard =>
    obtain ⟨t, h⟩ := upsertDeployment_frame s d guard
    rw [MemoryStore.perform, h]
  | assignDeployment id p a =>
    obtain ⟨t, l, h⟩ := assignDeployment_frame s id p a
    rw [MemoryStore.perform, h]
  | clearAssignment id g =>
    obtain ⟨t, l, h⟩ := clearAssignment_frame s id g
    rw [MemoryStore.perform, h]
  | claimPreflight id u now =>
    obtain ⟨t, h⟩ := claimPreflight_frame s id u now
    rw [MemoryStore.perform, h]
  | _ => rfl

theorem run_pageSize (s : MemoryStore) (calls : List StoreCall) :
    (s.run calls).pageSize = s.pageSize := by
  induction calls generalizing s with
  | nil => rfl
  | cons c calls ih => exact (ih (s.perform c).2).trans (perform_pageSize s c)

end MemoryStore
end AccessGrants
