import AccessGrants.Proofs.Concurrency.Rules
import AccessGrants.Proofs.Store.Links

/-!
# AccessGrants.Proofs.Bindings.Agreement

With enforced validation a bound deployment runs a provider with the schema of its target group, as
long as no registration writes without a condition what it had read under another provider.

* `Agreed`         — every bound deployment runs such a provider.
* `Relapses`       — a move by which a registration, without a condition, puts a provider with
                     another schema under a binding.
* `agreed_step`    — every other move keeps the agreement.
* `run_agreed_iff` — so a run keeps it exactly when it has no such move.
-/

namespace AccessGrants

/-- A provider whose target schema, as the registry answers it, is that of a target group. -/
def Declares (registry : Provider → Except RegistryError RegistryAnswer) (provider : Provider)
    (group : TargetGroup) : Prop :=
  ∃ answer detail, registry provider = .ok answer ∧ answer.isSuccess = true ∧
    answer.detail = some detail ∧ detail.target.Equivalent group.targetSchema.schema

/-- Every deployment that is assigned to a target group runs a provider with its schema. -/
def MemoryStore.Agreed (s : MemoryStore)
    (registry : Provider → Except RegistryError RegistryAnswer) : Prop :=
  ∀ (id g : String) (d : Deployment), s.deployments[id]? = some d → d.assignedTo g = true →
    ∃ group, s.targetGroups[g]? = some group ∧ Declares registry d.provider group

/-- Surroundings in which the registry always answers the same. -/
def Surroundings.withRegistry (registry : Provider → Except RegistryError RegistryAnswer)
    (x : Surroundings) : Surroundings :=
  { x with registry := registry }

namespace Pool

open Interaction

/-- The services with enforced validation and a registry that always answers the same. -/
abbrev enforced (policy : GrantPolicy)
    (registry : Provider → Except RegistryError RegistryAnswer) : Pool :=
  services ⟨.enforced, policy⟩ (.withRegistry registry)

variable {policy : GrantPolicy} {registry : Provider → Except RegistryError RegistryAnswer}

/-- The move is the unconditional write of a registration, and the stored deployment is bound to a
target group whose schema the provider of the registration does not have. -/
def Relapses (s : (enforced policy registry).State) (m : (enforced policy registry).Move) : Prop :=
  ∃ i x d, m = .proceed i x ∧
    pending s i = some (.resource (.store (.upsertDeployment d .any))) ∧
    ∃ (stored : Deployment) (g : String) (group : TargetGroup),
      s.world.store.deployments[d.id]? = some stored ∧ stored.assignedTo g = true ∧
      s.world.store.targetGroups[g]? = some group ∧ ¬ Declares registry d.provider group

section Rules

variable {rules : ServiceRules} {o : Operation} {past : Past}

theorem rule_upsert {d : Deployment} {guard : AssignmentGuard}
    (h : o.rule rules past (.resource (.store (.upsertDeployment d guard)))) :
    o = .registerDeployment d ∧ Operation.guardRule rules.schemaValidation past d guard := by
  cases o with
  | registerDeployment d' =>
    obtain ⟨rfl, h⟩ := h
    exact ⟨rfl, h⟩
  | _ => cases h

theorem rule_assign {id : String} {provider : Provider} {a : Assignment}
    (h : o.rule rules past (.resource (.store (.assignDeployment id provider a)))) :
    rules.schemaValidation = .enforced →
      ∃ group, SchemaChecked past provider a.targetGroupId group := by
  cases o with
  | linkDeployment g d priority => exact h
  | _ => cases h

end Rules

/-! ## What was read stays true -/

/-- Target groups are stored under their ids and never change, and the registry does not either. -/
structure ReadsHold (s : MemoryStore) (log : List (enforced policy registry).Entry) : Prop where
  keyed : ∀ (k : String) (group : TargetGroup), s.targetGroups[k]? = some group → group.id = k
  groups : ∀ i k group, ⟨.resource (.store (.getTargetGroup k)), some (.ok (some group))⟩ ∈
    past log i → s.targetGroups[k]? = some group
  answers : ∀ i provider answer, ⟨.resource (.lookup provider), some answer⟩ ∈ past log i →
    answer = registry provider

theorem ReadsHold.checked {s : MemoryStore} {log : List (enforced policy registry).Entry}
    (h : ReadsHold s log) {i : Nat} {provider : Provider} {key : String} {group : TargetGroup}
    (hc : SchemaChecked (past log i) provider key group) :
    group.id = key ∧ s.targetGroups[key]? = some group ∧ Declares registry provider group := by
  obtain ⟨hg, answer, detail, ha, hs, hd, he⟩ := hc
  have hgroup := h.groups i key group hg
  exact ⟨h.keyed key group hgroup, hgroup, answer, detail, (h.answers i provider _ ha).symm,
    hs, hd, he⟩

variable {w₀ w : World} {log : List (enforced policy registry).Entry}

theorem Trace.readsHold (h₀ : w₀.store.targetGroups = ∅)
    (h : Trace (S := enforced policy registry) (Operation.rule ⟨.enforced, policy⟩) w₀ w log) :
    ReadsHold w.store log := by
  induction h with
  | init => exact ⟨by simp [h₀], by simp, by simp⟩
  | clock t _ ih => exact ih
  | answered _ _ _ hw ih =>
    rcases World.perform_store hw with ⟨c, rfl⟩ | ⟨hs, hc⟩
    · cases hw
      constructor
      · intro k group hk
        rcases MemoryStore.targetGroup_of_perform hk with hk | hk
        · exact ih.keyed k group hk
        · exact hk
      · intro j k group hj
        refine MemoryStore.targetGroup_stays ?_ c
        rw [mem_past_cons] at hj
        rcases hj with ⟨-, hj⟩ | hj
        · rw [Exchange.mk.injEq] at hj
          obtain ⟨hc, hr⟩ := hj
          cases hc
          exact (Except.ok.inj (Option.some.inj (eq_of_heq hr))).symm
        · exact ih.groups j k group hj
      · intro j provider answer hj
        rw [mem_past_cons] at hj
        rcases hj with ⟨-, hj⟩ | hj
        · cases hj
        · exact ih.answers j provider answer hj
    · rw [hs]
      refine ⟨ih.keyed, fun j k group hj => ?_, fun j provider answer hj => ?_⟩
      · rw [mem_past_cons] at hj
        rcases hj with ⟨-, hj⟩ | hj
        · cases hj
          exact absurd rfl (hc _)
        · exact ih.groups j k group hj
      · rw [mem_past_cons] at hj
        rcases hj with ⟨-, hj⟩ | hj
        · cases hj
          cases hw
          rfl
        · exact ih.answers j provider answer hj
  | lost _ _ _ ih =>
    constructor
    · exact ih.keyed
    · intro j k group hj
      rw [mem_past_cons] at hj
      rcases hj with ⟨-, hj⟩ | hj
      · cases hj
      · exact ih.groups j k group hj
    · intro j provider answer hj
      rw [mem_past_cons] at hj
      rcases hj with ⟨-, hj⟩ | hj
      · cases hj
      · exact ih.answers j provider answer hj

/-! ## One move -/

theorem upsert_agreed {s : MemoryStore} (h : s.Agreed registry) {d : Deployment}
    {guard : AssignmentGuard}
    (hd : ∀ (stored : Deployment) (g : String), s.deployments[d.id]? = some stored →
      stored.assignedTo g = true → MemoryStore.allows guard (some stored) = true →
      ∃ group, s.targetGroups[g]? = some group ∧ Declares registry d.provider group) :
    (s.upsertDeployment d guard).2.Agreed registry := by
  obtain ⟨t, ht⟩ := s.upsertDeployment_frame d guard
  have hgroups : (s.upsertDeployment d guard).2.targetGroups = s.targetGroups := by rw [ht]
  intro id g e he hg
  rw [hgroups]
  simp only [MemoryStore.upsertDeployment] at he
  split at he
  · rename_i hallow
    rw [MemoryStore.getElem?_insert_row] at he
    split at he
    · cases he
      cases hst : s.deployments[d.id]? with
      | none => simp [MemoryStore.merged, hst, Deployment.assignedTo] at hg
      | some stored =>
        rw [hst] at hallow
        exact hd stored g hst (by simpa [MemoryStore.merged, hst, Deployment.assignedTo] using hg) hallow
    · exact h id g e he hg
  · exact h id g e he hg

theorem assign_agreed {s : MemoryStore} (h : s.Agreed registry) {id : String} {provider : Provider}
    {a : Assignment} {group : TargetGroup} (hg : s.targetGroups[a.targetGroupId]? = some group)
    (hd : Declares registry provider group) :
    (s.assignDeployment id provider a).2.Agreed registry := by
  obtain ⟨t, l, ht⟩ := s.assignDeployment_frame id provider a
  have hgroups : (s.assignDeployment id provider a).2.targetGroups = s.targetGroups := by rw [ht]
  intro k g e he hk
  rw [hgroups]
  simp only [MemoryStore.assignDeployment] at he
  split at he
  · exact h k g e he hk
  · rename_i d hst
    split at he
    · exact h k g e he hk
    · rename_i hfree
      split at he
      · exact h k g e he hk
      · rw [MemoryStore.getElem?_insert_row] at he
        split at he
        · cases he
          obtain rfl : a.targetGroupId = g := by simpa [Deployment.assignedTo] using hk
          have hp : d.provider = provider := by simpa using (not_or.mp hfree).2
          exact ⟨group, hg, by rw [hp]; exact hd⟩
        · exact h k g e he hk

theorem clear_agreed {s : MemoryStore} (h : s.Agreed registry) (id targetGroupId : String) :
    (s.clearAssignment id targetGroupId).2.Agreed registry := by
  obtain ⟨t, l, ht⟩ := s.clearAssignment_frame id targetGroupId
  have hgroups : (s.clearAssignment id targetGroupId).2.targetGroups = s.targetGroups := by rw [ht]
  intro k g e he hk
  rw [hgroups]
  simp only [MemoryStore.clearAssignment] at he
  split at he
  · exact h k g e he hk
  · split at he
    · exact h k g e he hk
    · rw [MemoryStore.getElem?_insert_row] at he
      split at he
      · cases he
        simp [Deployment.assignedTo] at hk
      · exact h k g e he hk

theorem assignedTo_unique {d : Deployment} {g g' : String} (h : d.assignedTo g = true)
    (h' : d.assignedTo g' = true) : g = g' := by
  obtain ⟨a, ha, rfl⟩ := MemoryStore.assignedTo_iff.mp h
  obtain ⟨b, hb, rfl⟩ := MemoryStore.assignedTo_iff.mp h'
  rw [ha] at hb
  cases hb
  rfl

/-- A guarded registration finds the binding that it has checked, or none. -/
theorem guarded_upsert_agreed {s : MemoryStore} {log : List (enforced policy registry).Entry}
    (h : s.Agreed registry) (hr : ReadsHold s log) {i : Nat} {d : Deployment}
    {guard : AssignmentGuard} (hguard : guard ≠ .any)
    (hrule : Operation.guardRule .enforced (past log i) d guard) :
    (s.upsertDeployment d guard).2.Agreed registry := by
  refine upsert_agreed h fun stored g hst hg hallow => ?_
  cases guard with
  | any => exact absurd rfl hguard
  | unassigned =>
    obtain ⟨a, ha, -⟩ := MemoryStore.assignedTo_iff.mp hg
    simp [MemoryStore.allows, Deployment.isAssigned, ha] at hallow
  | assignedTo g' =>
    obtain ⟨key, group, hc, hid⟩ := hrule rfl
    obtain ⟨hkey, hgroup, hdecl⟩ := hr.checked hc
    obtain rfl : g = g' := assignedTo_unique hg hallow
    rw [← hid, hkey]
    exact ⟨group, hgroup, hdecl⟩

theorem Agreed.of_tables {s s' : MemoryStore} (h : s.Agreed registry)
    (hd : s'.deployments = s.deployments)
    (hg : ∀ (k : String) group, s.targetGroups[k]? = some group → s'.targetGroups[k]? = some group) :
    s'.Agreed registry := by
  intro id g d hid hassigned
  rw [hd] at hid
  obtain ⟨group, hgroup, hdecl⟩ := h id g d hid hassigned
  exact ⟨group, hg g group hgroup, hdecl⟩

variable {s : (enforced policy registry).State}

/-- The unconditional write is the only one that can break the agreement. -/
theorem agreed_act {ends : (o : Operation) → Past → Except ServiceError o.Result → Prop}
    (h₀ : w₀.store.targetGroups = ∅)
    (hk : Keeps (S := enforced policy registry) (Operation.rule ⟨.enforced, policy⟩) ends w₀ s)
    (h : s.world.store.Agreed registry) {m : (enforced policy registry).Move}
    (hm : ¬ Relapses s m) : (act s m).world.store.Agreed registry := by
  have reads := hk.trace.readsHold h₀
  rcases act_cases s m with hs | ⟨i, x, o, c, next, r, rfl, hi, hw⟩
  · rw [hs]
    exact h
  · have hrule := (hk.rests i _ _ hi).1
    rcases World.perform_store hw with ⟨c, rfl⟩ | ⟨hs, -⟩
    · have hs : (act s (.proceed i x)).world.store = (s.world.store.perform c).2 := by
        rw [World.perform, Option.some.injEq, Prod.mk.injEq] at hw
        rw [← hw.2]
      rw [hs]
      cases c with
      | upsertDeployment d guard =>
        obtain ⟨-, hrule⟩ := rule_upsert hrule
        by_cases hguard : guard = .any
        · subst hguard
          refine upsert_agreed h fun stored g hst hg _ => ?_
          obtain ⟨group, hgroup, -⟩ := h d.id g stored hst hg
          refine ⟨group, hgroup, Classical.byContradiction fun hdecl => hm ?_⟩
          exact ⟨i, x, d, rfl, by rw [pending, hi], stored, g, group, hst, hg, hgroup, hdecl⟩
        · exact guarded_upsert_agreed h reads hguard hrule
      | assignDeployment id provider a =>
        obtain ⟨group, hc⟩ := rule_assign hrule rfl
        obtain ⟨-, hgroup, hdecl⟩ := reads.checked hc
        exact assign_agreed h hgroup hdecl
      | clearAssignment id g => exact clear_agreed h id g
      | _ =>
        refine Agreed.of_tables h ?_ fun k group hg => MemoryStore.targetGroup_stays hg _
        rw [MemoryStore.perform_deployments]
    · rw [hs]
      exact h

theorem not_agreed_act {m : (enforced policy registry).Move} (hm : Relapses s m) :
    ¬ (act s m).world.store.Agreed registry := by
  intro h
  obtain ⟨i, x, d, rfl, hp, stored, g, group, hst, hg, hgroup, hdecl⟩ := hm
  have hs := proceed_store hp x
  have hstored : (proceed s i x).world.store.deployments[d.id]? =
      some (MemoryStore.merged d (some stored)) := by
    simp only [hs, MemoryStore.perform_deployments, MemoryStore.upsertDeployment, hst,
      MemoryStore.allows, if_true]
    rw [MemoryStore.getElem?_insert_row, if_pos rfl]
  have hassigned : (MemoryStore.merged d (some stored)).assignedTo g = true := hg
  obtain ⟨group', hgroup', hdecl'⟩ := h d.id g _ hstored hassigned
  rw [act, hs] at hgroup'
  rw [MemoryStore.targetGroup_stays hgroup] at hgroup'
  cases hgroup'
  exact hdecl hdecl'

theorem Relapses.stale {ends : (o : Operation) → Past → Except ServiceError o.Result → Prop}
    (hk : Keeps (S := enforced policy registry) (Operation.rule ⟨.enforced, policy⟩) ends w₀ s)
    (h : s.world.store.Agreed registry) {m : (enforced policy registry).Move} (hm : Relapses s m) :
    ∃ i x d seen stored, m = .proceed i x ∧ Runs s.log i (.registerDeployment d) ∧
      ⟨.resource (.store (.getDeployment d.id)), some (.ok (some seen))⟩ ∈ past s.log i ∧
      seen.provider = d.provider ∧ s.world.store.deployments[d.id]? = some stored ∧
      stored.provider ≠ d.provider := by
  obtain ⟨i, x, d, rfl, hp, stored, g, group, hst, hg, hgroup, hdecl⟩ := hm
  obtain ⟨o, next, hi⟩ := pending_eq_some.mp hp
  obtain ⟨rfl, hrule⟩ := rule_upsert (hk.rests i _ _ hi).1
  obtain ⟨seen, hseen, hread⟩ := hrule rfl
  refine ⟨i, x, d, seen, stored, rfl, ?_, hread, hseen, hst, fun hsame => hdecl ?_⟩
  · obtain ⟨e, he, hei, -⟩ := mem_past.mp hread
    obtain ⟨t, ht, hop⟩ := hk.tasks e he
    rw [hei, hi] at ht
    cases ht
    exact ⟨e, he, hei, hop.symm⟩
  · obtain ⟨group', hgroup', hdecl'⟩ := h d.id g stored hst hg
    rw [hgroup] at hgroup'
    cases hgroup'
    rw [← hsame]
    exact hdecl'

/-- A run from an empty store keeps the agreement in all of its states exactly when no move of it is
a relapse. A first relapse is that of a registration that had seen the deployment with its own
provider, while another one is stored by now. -/
theorem run_agreed_iff (policy : GrantPolicy)
    (registry : Provider → Except RegistryError RegistryAnswer) (pageSize : Nat) (clock : Instant)
    (moves : List (enforced policy registry).Move) :
    let at_ := fun n => run (World.fresh pageSize clock) (moves.take n)
    ((∀ n, (at_ n).world.store.Agreed registry) ↔
      ∀ n m, moves[n]? = some m → ¬ Relapses (at_ n) m) ∧
    ∀ n m, (at_ n).world.store.Agreed registry → Relapses (at_ n) m →
      ∃ i x d seen stored, m = .proceed i x ∧ Runs (at_ n).log i (.registerDeployment d) ∧
        ⟨.resource (.store (.getDeployment d.id)), some (.ok (some seen))⟩ ∈ past (at_ n).log i ∧
        seen.provider = d.provider ∧ (at_ n).world.store.deployments[d.id]? = some stored ∧
        stored.provider ≠ d.provider := by
  intro at_
  have keeps : ∀ n, Keeps (S := enforced policy registry) (Operation.rule ⟨.enforced, policy⟩)
      (fun _ _ _ => True) (World.fresh pageSize clock) (at_ n) :=
    fun n => services_keep ⟨.enforced, policy⟩ (.withRegistry registry) _ (moves.take n)
  refine ⟨⟨fun h n m hm hr => ?_, fun h n => ?_⟩, fun n m h hr => hr.stale (keeps n) h⟩
  · have hnext := h (n + 1)
    simp only [at_, run_take_succ _ hm] at hnext
    exact not_agreed_act hr hnext
  · refine run_take_le (P := fun s => s.world.store.Agreed registry)
      (fun k _ m hm ih => agreed_act rfl (keeps k) ih (h k m hm)) (Nat.zero_le n) ?_
    intro id g d hd
    simp [run, World.fresh, MemoryStore.empty] at hd

/-! ## A relapse -/

namespace Overlap

def vault (version : String) : Provider := ⟨"acme", "vault", version⟩

/-- Every version of a provider declares a schema of its own. -/
def byVersion (p : Provider) : Except RegistryError RegistryAnswer :=
  .ok ⟨200, some ⟨p, .string p.version⟩, ""⟩

def deployment (version : String) : Deployment := ⟨"d", vault version, none, [], none⟩

def calls (task n : Nat) : List (enforced .standard byVersion).Move :=
  List.replicate n (.proceed task .plain)

/-- Version 1 is registered twice. Between the read and the write of the second registration, version
2 is registered over the same deployment and bound to a target group with its schema. -/
def moves : List (enforced .standard byVersion).Move :=
  .start (Operation.createTargetGroup "g" "acme/vault@2") :: calls 0 4 ++
  .start (Operation.registerDeployment (deployment "1")) :: calls 1 2 ++
  .start (Operation.registerDeployment (deployment "1")) :: calls 2 1 ++
  .start (Operation.registerDeployment (deployment "2")) :: calls 3 2 ++
  .start (Operation.linkDeployment "g" "d" 0) :: calls 4 5 ++
  calls 2 1

/-- The bound deployment ends up with version 1 under a target group with the schema of version 2. -/
theorem moves_disagree :
    ¬ (run (World.fresh 50 ⟨0, 0⟩) moves).world.store.Agreed byVersion := by
  intro h
  have hd : (run (World.fresh 50 ⟨0, 0⟩) moves).world.store.deployments["d"]? =
      some { deployment "1" with assignment := some ⟨"g", 0, []⟩ } := by decide +kernel
  have hg : (run (World.fresh 50 ⟨0, 0⟩) moves).world.store.targetGroups["g"]? =
      some ⟨"g", ⟨"acme/vault@2", .string "2"⟩, ⟨0, 0⟩, ⟨0, 0⟩⟩ := by decide +kernel
  obtain ⟨group, hgroup, answer, detail, ha, -, hdetail, he⟩ := h "d" "g" _ hd rfl
  rw [hg] at hgroup
  cases hgroup
  cases ha
  cases hdetail
  exact absurd he (by decide)

end Overlap

end Pool
end AccessGrants
