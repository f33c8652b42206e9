import AccessGrants.Preflight
import Mathlib.Data.List.Induction
import Mathlib.Data.List.Nodup

/-!
# AccessGrants.Proofs.Preflights.Grouping

Targets grouped by access rule: every rule has one group, and a group holds the targets of its rule
in their order.

* `Grouped`        — what is known of a grouping.
* `byRule_grouped` — that of a preflight is one, by one step for each target.
* `byRule_rules`   — its rules are the distinct rules of the targets.
-/

namespace AccessGrants.Preflight

/-- Groups with the targets of their rules. -/
structure Grouped (targets : List Target) (groups : List (String × List Target)) : Prop where
  rules : (groups.map (·.1)).Nodup
  members : ∀ g ∈ groups, g.2 = targets.filter fun t => t.accessRule = g.1
  inhabited : ∀ g ∈ groups, ∃ t ∈ targets, t.accessRule = g.1
  covered : ∀ t ∈ targets, t.accessRule ∈ groups.map (·.1)

/-- A new rule opens a group at the end. -/
theorem addByRule_of_not_mem {target : Target} {groups : List (String × List Target)}
    (h : target.accessRule ∉ groups.map (·.1)) :
    addByRule target groups = groups ++ [(target.accessRule, [target])] := by
  induction groups with
  | nil => rfl
  | cons g groups ih =>
    obtain ⟨rule, targets⟩ := g
    rw [List.map_cons, List.mem_cons, not_or] at h
    rw [addByRule, if_neg (Ne.symm h.1), ih h.2, List.cons_append]

/-- A known rule has one group, which the target joins at the end. -/
theorem addByRule_of_mem {target : Target} {groups : List (String × List Target)}
    (hn : (groups.map (·.1)).Nodup) (h : target.accessRule ∈ groups.map (·.1)) :
    addByRule target groups =
      groups.map fun g => if g.1 = target.accessRule then (g.1, g.2 ++ [target]) else g := by
  induction groups with
  | nil => cases h
  | cons g groups ih =>
    obtain ⟨rule, targets⟩ := g
    rw [List.map_cons, List.nodup_cons] at hn
    by_cases hr : rule = target.accessRule
    · have hrest : groups.map (fun g =>
          if g.1 = target.accessRule then (g.1, g.2 ++ [target]) else g) = groups := by
        conv_rhs => rw [← List.map_id groups]
        refine List.map_congr_left fun g hg => if_neg fun hg' => hn.1 ?_
        exact List.mem_map.mpr ⟨g, hg, hg'.trans hr.symm⟩
      rw [addByRule, if_pos hr, List.map_cons, if_pos hr, hrest]
    · have hmem : target.accessRule ∈ groups.map (·.1) := by
        rcases List.mem_cons.mp h with h | h
        · exact absurd h.symm hr
        · exact h
      rw [addByRule, if_neg hr, List.map_cons, if_neg hr, ih hn.2 hmem]

theorem rules_addByRule_of_mem {target : Target} {groups : List (String × List Target)}
    (hn : (groups.map (·.1)).Nodup) (h : target.accessRule ∈ groups.map (·.1)) :
    (addByRule target groups).map (·.1) = groups.map (·.1) := by
  rw [addByRule_of_mem hn h, List.map_map]
  refine List.map_congr_left fun g _ => ?_
  rw [Function.comp]
  split <;> rfl

namespace Grouped

variable {targets : List Target} {groups : List (String × List Target)} {target : Target}

theorem add_known (h : Grouped targets groups) (hr : target.accessRule ∈ groups.map (·.1)) :
    Grouped (targets ++ [target]) (addByRule target groups) := by
  have hkeys := rules_addByRule_of_mem h.rules hr
  rw [addByRule_of_mem h.rules hr] at hkeys ⊢
  constructor
  · rw [hkeys]
    exact h.rules
  · intro g hg
    obtain ⟨g₀, hg₀, rfl⟩ := List.mem_map.mp hg
    split
    · rename_i heq
      simp [h.members g₀ hg₀, heq]
    · rename_i hne
      simp [h.members g₀ hg₀, Ne.symm hne]
  · intro g hg
    obtain ⟨g₀, hg₀, rfl⟩ := List.mem_map.mp hg
    obtain ⟨t, ht, htr⟩ := h.inhabited g₀ hg₀
    refine ⟨t, List.mem_append_left _ ht, htr.trans ?_⟩
    split <;> rfl
  · intro t ht
    rw [hkeys]
    rcases List.mem_append.mp ht with ht | ht
    · exact h.covered t ht
    · rw [List.mem_singleton.mp ht]
      exact hr

theorem add_new (h : Grouped targets groups) (hr : target.accessRule ∉ groups.map (·.1)) :
    Grouped (targets ++ [target]) (addByRule target groups) := by
  rw [addByRule_of_not_mem hr]
  constructor
  · rw [List.map_append, List.nodup_append]
    refine ⟨h.rules, List.nodup_singleton _, ?_⟩
    intro a ha b hb hab
    rw [List.map_singleton, List.mem_singleton] at hb
    rw [hab, hb] at ha
    exact hr ha
  · intro g hg
    rcases List.mem_append.mp hg with hg | hg
    · have hne : target.accessRule ≠ g.1 := fun heq => hr (heq ▸ List.mem_map_of_mem hg)
      simp [h.members g hg, hne]
    · rw [List.mem_singleton.mp hg]
      have hnone : targets.filter (fun t => t.accessRule = target.accessRule) = [] := by
        refine List.filter_eq_nil_iff.mpr fun t ht htr => hr ?_
        rw [← of_decide_eq_true htr]
        exact h.covered t ht
      simp [hnone]
  · intro g hg
    rcases List.mem_append.mp hg with hg | hg
    · obtain ⟨t, ht, htr⟩ := h.inhabited g hg
      exact ⟨t, List.mem_append_left _ ht, htr⟩
    · rw [List.mem_singleton.mp hg]
      exact ⟨target, by simp, rfl⟩
  · intro t ht
    rw [List.map_append, List.mem_append]
    rcases List.mem_append.mp ht with ht | ht
    · exact .inl (h.covered t ht)
    · rw [List.mem_singleton.mp ht]
      exact .inr (List.mem_singleton.mpr rfl)

theorem add (h : Grouped targets groups) (target : Target) :
    Grouped (targets ++ [target]) (addByRule target groups) := by
  by_cases hr : target.accessRule ∈ groups.map (·.1)
  · exact h.add_known hr
  · exact h.add_new hr

end Grouped

theorem byRule_grouped (targets : List Target) : Grouped targets (byRule targets) := by
  have steps : ∀ (rest : List Target) (done : List Target) (groups : List (String × List Target)),
      Grouped done groups →
      Grouped (done ++ rest) (rest.foldl (fun groups target => addByRule target groups) groups) := by
    intro rest
    induction rest with
    | nil => simp
    | cons target rest ih =>
      intro done groups h
      rw [List.foldl_cons, List.append_cons]
      exact ih _ _ (h.add target)
  exact steps targets [] [] ⟨List.nodup_nil, by simp, by simp, by simp⟩

/-- The rules stand in the order in which they are first seen. -/
theorem byRule_rules (targets : List Target) :
    (byRule targets).map (·.1) = (targets.map (·.accessRule)).eraseDups := by
  induction targets using List.reverseRecOn with
  | nil => rfl
  | append_singleton targets target ih =>
    have hstep : byRule (targets ++ [target]) = addByRule target (byRule targets) := by
      rw [byRule, List.foldl_append]
      rfl
    rw [hstep, List.map_append, List.eraseDups_append, ← ih, List.map_singleton]
    by_cases hr : target.accessRule ∈ (byRule targets).map (·.1)
    · have hseen : target.accessRule ∈ targets.map (·.accessRule) := by
        rwa [ih, List.mem_eraseDups] at hr
      rw [rules_addByRule_of_mem (byRule_grouped targets).rules hr, List.removeAll,
        List.filter_cons_of_neg (by simpa using hseen)]
      simp
    · have hunseen : target.accessRule ∉ targets.map (·.accessRule) := by
        rwa [ih, List.mem_eraseDups] at hr
      rw [addByRule_of_not_mem hr, List.map_append, List.removeAll,
        List.filter_cons_of_pos (by simpa using hunseen)]
      simp [List.eraseDups_cons]

theorem mem_byRule {targets : List Target} {t : Target} :
    t ∈ (byRule targets).flatMap (·.2) ↔ t ∈ targets := by
  have h := byRule_grouped targets
  rw [List.mem_flatMap]
  constructor
  · rintro ⟨g, hg, ht⟩
    rw [h.members g hg] at ht
    exact (List.mem_filter.mp ht).1
  · intro ht
    obtain ⟨g, hg, hr⟩ := List.mem_map.mp (h.covered t ht)
    refine ⟨g, hg, ?_⟩
    rw [h.members g hg]
    exact List.mem_filter.mpr ⟨ht, by simp [hr]⟩

theorem byRule_ne_nil {targets : List Target} {g : String × List Target}
    (hg : g ∈ byRule targets) : g.2 ≠ [] := by
  have h := byRule_grouped targets
  obtain ⟨t, ht, hr⟩ := h.inhabited g hg
  rw [h.members g hg]
  exact List.ne_nil_of_mem (List.mem_filter.mpr ⟨ht, by simp [hr]⟩)

end AccessGrants.Preflight
