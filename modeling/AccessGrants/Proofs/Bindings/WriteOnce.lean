import AccessGrants.Proofs.Concurrency.Lasting
import AccessGrants.Proofs.Concurrency.Rules
import AccessGrants.Proofs.Store.Links

/-!
# AccessGrants.Proofs.Bindings.WriteOnce

A target group is created once and never changes, and no deployment is bound to one that is not
there, however the operations are interleaved.

* `Operation.duty`, `Operation.outcome` — what a creation inserts, what a link and a registration
                         have read before they go on, and what their results say.
* `Trace.created_stays`  — an inserted group is stored from then on.
* `Trace.created_nodup`  — no id is inserted twice.
* `Trace.groupsStand`    — the target group of every assignment is stored.
* `Trace.group_answered` — so a registration always finds the group of a binding.
* `group_stays`          — no move changes a stored group.
* `run_write_once`       — what follows for every run from an empty store.
-/

namespace AccessGrants

namespace Exchange

/-- The target group that was inserted. -/
def created? : Exchange Call.Reply → Option TargetGroup
  | ⟨.resource (.store (.insertTargetGroup group)), some (.ok ())⟩ => some group
  | _ => none

/-- The target group that was found, under the key that was asked for. -/
def groupFound? : Exchange Call.Reply → Option (String × TargetGroup)
  | ⟨.resource (.store (.getTargetGroup k)), some (.ok (some group))⟩ => some (k, group)
  | _ => none

/-- The assignment of the deployment that was found. -/
def bindingFound? : Exchange Call.Reply → Option Assignment
  | ⟨.resource (.store (.getDeployment _)), some (.ok (some d))⟩ => d.assignment
  | _ => none

variable {ex : Exchange Call.Reply}

theorem created?_eq_some {group : TargetGroup} (h : created? ex = some group) :
    ex = ⟨.resource (.store (.insertTargetGroup group)), some (.ok ())⟩ := by
  unfold created? at h
  split at h
  · cases h
    rfl
  · cases h

theorem groupFound?_eq_some {found : String × TargetGroup} (h : groupFound? ex = some found) :
    ex = ⟨.resource (.store (.getTargetGroup found.1)), some (.ok (some found.2))⟩ := by
  unfold groupFound? at h
  split at h
  · cases h
    rfl
  · cases h

theorem bindingFound?_eq_some {a : Assignment} (h : bindingFound? ex = some a) :
    ∃ id d, ex = ⟨.resource (.store (.getDeployment id)), some (.ok (some d))⟩ ∧
      d.assignment = some a := by
  unfold bindingFound? at h
  split at h
  · exact ⟨_, _, rfl, h⟩
  · cases h

end Exchange

open Exchange Interaction

namespace Operation

/-- A creation inserts its own id. A link has found the group that it assigns, and a registration asks
for a group only when it has found a deployment that is bound to it. -/
def duty : Operation → Past → Call → Prop
  | createTargetGroup id _, _, .resource (.store (.insertTargetGroup group)) => group.id = id
  | linkDeployment _ _ _, past, .resource (.store (.assignDeployment _ _ a)) =>
    ∃ group, (a.targetGroupId, group) ∈ told groupFound? past
  | registerDeployment _, past, .resource (.store (.getTargetGroup k)) =>
    ∃ a, a ∈ told bindingFound? past ∧ a.targetGroupId = k
  | _, _, _ => True

/-- A creation returns the group that it has inserted. A registration does not find something only
where it asked for a group and there was none. -/
def outcome : (o : Operation) → Past → Except ServiceError o.Result → Prop
  | createTargetGroup id ref, past, .ok group =>
    group.id = id ∧ group.targetSchema.source = ref ∧ group ∈ told created? past
  | registerDeployment _, past, .error (.notFound _) =>
    ∃ k, ⟨.resource (.store (.getTargetGroup k)), some (.ok none)⟩ ∈ past
  | _, _, _ => True

/-- What the operations do to target groups and bindings. -/
def groupRules (rules : ServiceRules) (o : Operation) (past : Past) (c : Call) : Prop :=
  o.rule rules past c ∧ o.duty past c

theorem createTargetGroup_duty (id schemaRef : String) :
    (Bindings.createTargetGroup id schemaRef).Obeys (duty (createTargetGroup id schemaRef))
      (fun past group => outcome (createTargetGroup id schemaRef) past (.ok group))
      (fun _ _ => True) [] := by
  simp only [Bindings.createTargetGroup, Service.obeys_bind, Service.obeys_store]
  refine ⟨trivial, fun found => ?_, fun _ => trivial⟩
  split
  · trivial
  · split
    · trivial
    · simp only [Service.obeys_bind]
      have hlookup : ∀ provider past, duty (createTargetGroup id schemaRef) past
          (.resource (.lookup provider)) := fun _ _ => trivial
      refine (Compatibility.targetSchema_obeys (hlookup _ _)).mono (fun past schema _ => ?_)
        fun _ _ _ => trivial
      simp only [Service.obeys_now, Service.obeys_ask]
      refine ⟨trivial, fun now => ⟨rfl, ?_⟩⟩
      rintro (e | _)
      · cases e <;> trivial
      · exact ⟨rfl, rfl, List.mem_cons_self⟩

theorem linkDeployment_duty (validation : SchemaValidation) (targetGroupId deploymentId : String)
    (priority : Int) :
    (Bindings.linkDeployment validation targetGroupId deploymentId priority).Obeys
      (duty (linkDeployment targetGroupId deploymentId priority)) (fun _ _ => True)
      (fun _ _ => True) [] := by
  have quiet : ∀ past c, Call.isQuiet c = true →
      duty (linkDeployment targetGroupId deploymentId priority) past c := by
    intro past c hc
    unfold duty
    split
    · trivial
    · cases hc
    · trivial
    · trivial
  simp only [Bindings.linkDeployment, Service.obeys_bind]
  refine (getTargetGroup_obeys quiet _ _).mono ?_ fun _ _ h => h
  rintro _ group rfl
  simp only [Service.obeys_store, Service.obeys_orNotFound]
  refine ⟨trivial, fun found => ⟨fun deployment _ => ⟨trivial, fun bound => ?_, by simp⟩, by simp⟩,
    by simp⟩
  split
  · trivial
  · split
    · trivial
    · split
      · simp only [Service.obeys_bind, Service.obeys_ask]
        refine (ensureCompatible_obeys quiet targetGroupId (by simp) _).mono (fun past' _ hs => ?_)
          fun _ _ h => h
        refine ⟨⟨group, List.mem_filterMap.mpr ⟨_, hs.1, rfl⟩⟩, ?_⟩
        rintro (e | _)
        · cases e <;> trivial
        · trivial
      · simp only [Service.obeys_bind, Service.obeys_ask]
        refine ⟨⟨group, by simp [groupFound?, Deployment.assignmentFor]⟩, ?_⟩
        rintro (e | _)
        · cases e <;> trivial
        · trivial

theorem targetSchema_fails {rule : Past → Call → Prop} {provider : Provider} {past : Past}
    (hr : rule past (.resource (.lookup provider))) :
    (Compatibility.targetSchema provider).Obeys rule (fun _ _ => True)
      (fun _ e => ∃ detail, e = .registryFailed detail) past := by
  simp only [Compatibility.targetSchema, Service.obeys_bind, Service.obeys_ask]
  refine ⟨hr, ?_⟩
  rintro (e | answer)
  · exact ⟨_, rfl⟩
  · dsimp only
    split
    · split
      · trivial
      · exact ⟨_, rfl⟩
    · exact ⟨_, rfl⟩

section Registration

variable {deployment : Deployment} {past : Past}

/-- The group of a binding that was found is the only thing that a registration may miss. -/
theorem registrationGuard_duty (validation : SchemaValidation) {existing : Option Deployment}
    (he : ⟨.resource (.store (.getDeployment deployment.id)), some (.ok existing)⟩ ∈ past) :
    (Bindings.registrationGuard validation existing deployment).Obeys
      (duty (registerDeployment deployment)) (fun _ _ => True)
      (fun past' e => outcome (registerDeployment deployment) past' (.error e)) past := by
  unfold Bindings.registrationGuard
  simp only
  split
  · trivial
  · split
    · trivial
    · rename_i assignment ha
      have hbound : assignment ∈ told bindingFound? past := by
        refine List.mem_filterMap.mpr ⟨_, he, ?_⟩
        cases existing with
        | none => cases ha
        | some d => exact ha
      simp only [Bindings.getTargetGroup, Service.obeys_bind, Service.obeys_store,
        Service.obeys_orNotFound]
      refine ⟨⟨assignment, hbound, rfl⟩, fun found => ⟨fun group _ => ?_, ?_⟩, fun _ => trivial⟩
      · simp only [Bindings.ensureCompatible, Service.obeys_bind]
        have hlookup : ∀ provider past, duty (registerDeployment deployment) past
            (.resource (.lookup provider)) := fun _ _ => trivial
        refine (targetSchema_fails (hlookup _ _)).mono (fun _ schema _ => ?_) ?_
        · split <;> trivial
        · rintro _ _ ⟨detail, rfl⟩
          trivial
      · rintro rfl
        exact ⟨assignment.targetGroupId, List.mem_cons_self⟩

theorem registerWithin_duty (validation : SchemaValidation) (attempts : Nat) :
    (Bindings.registerWithin validation deployment attempts).Obeys
      (duty (registerDeployment deployment)) (fun _ _ => True)
      (fun past' e => outcome (registerDeployment deployment) past' (.error e)) past := by
  induction attempts generalizing past with
  | zero => trivial
  | succ attempts ih =>
    simp only [Bindings.registerWithin, Service.obeys_bind, Service.obeys_store]
    refine ⟨trivial, fun existing => ?_, fun _ => trivial⟩
    refine (registrationGuard_duty validation List.mem_cons_self).mono (fun past' guard _ => ?_)
      fun _ _ h => h
    simp only [Service.obeys_ask]
    refine ⟨trivial, ?_⟩
    rintro (e | stored)
    · cases e with
      | conditionFailed => exact ih
      | invalidPageToken => trivial
      | backend detail => trivial
    · trivial

end Registration

theorem program_dutiful (rules : ServiceRules) (o : Operation) :
    Interaction.Obeys (groupRules rules o) (outcome o) [] (o.program rules).run := by
  have keeps := program_obeys rules o
  cases o with
  | createTargetGroup id schemaRef =>
    refine Interaction.Obeys.mono (Service.Obeys.and keeps (createTargetGroup_duty id schemaRef))
      (fun _ _ h => h) fun past r h => ?_
    cases r with
    | ok group => exact h.2
    | error e => trivial
  | linkDeployment targetGroupId deploymentId priority =>
    exact Interaction.Obeys.mono (Service.Obeys.and keeps
      (linkDeployment_duty rules.schemaValidation targetGroupId deploymentId priority))
      (fun _ _ h => h) fun _ _ _ => trivial
  | registerDeployment deployment =>
    refine Interaction.Obeys.mono (Service.Obeys.and keeps
      (registerWithin_duty rules.schemaValidation Bindings.registerAttempts))
      (fun _ _ h => h) fun past r h => ?_
    cases r with
    | ok stored => trivial
    | error e => exact h.2
  | _ => exact Interaction.Obeys.mono keeps (fun _ _ h => ⟨h, trivial⟩) fun _ _ _ => trivial

theorem groupFound_of_assign {rules : ServiceRules} {o : Operation} {past : Past} {id : String}
    {provider : Provider} {a : Assignment}
    (h : groupRules rules o past (.resource (.store (.assignDeployment id provider a)))) :
    ∃ group, (a.targetGroupId, group) ∈ told groupFound? past := by
  cases o with
  | linkDeployment targetGroupId deploymentId priority => exact h.2
  | _ => cases h.1

end Operation

namespace MemoryStore

theorem insertTargetGroup_ok {s : MemoryStore} {group : TargetGroup}
    (h : (s.perform (.insertTargetGroup group)).1 = .ok ()) :
    s.targetGroups[group.id]? = none ∧
      (s.perform (.insertTargetGroup group)).2.targetGroups[group.id]? = some group := by
  simp only [perform, insertTargetGroup] at h ⊢
  split at h
  · cases h
  · rename_i hfree
    rw [if_neg hfree]
    refine ⟨?_, by rw [getElem?_insert_row, if_pos rfl]⟩
    rw [Std.ExtTreeMap.contains_eq_isSome_getElem?] at hfree
    simpa using hfree

/-- The target group of every assignment is stored. -/
def GroupsStand (s : MemoryStore) : Prop :=
  ∀ id a, s.assignmentOf id = some a →
    ∃ group : TargetGroup, s.targetGroups[a.targetGroupId]? = some group

theorem empty_groupsStand (pageSize : Nat) : (empty pageSize).GroupsStand := by
  intro id a ha
  simp [empty, assignmentOf] at ha

/-- An assignment is the only call that can bind a deployment to another group. -/
theorem GroupsStand.perform {s : MemoryStore} (h : s.GroupsStand) {c : StoreCall}
    (hc : ∀ id provider a, c = .assignDeployment id provider a →
      ∃ group : TargetGroup, s.targetGroups[a.targetGroupId]? = some group) :
    (s.perform c).2.GroupsStand := by
  intro id a ha
  have stands : ∃ group : TargetGroup, s.targetGroups[a.targetGroupId]? = some group := by
    by_cases hsame : (s.perform c).2.assignmentOf id = s.assignmentOf id
    · exact h id a (hsame ▸ ha)
    · rcases perform_assignmentOf_ne hsame with ⟨provider, b, rfl⟩ | ⟨g, rfl⟩
      · rcases assignDeployment_view s id provider b with hs | ⟨-, -, -, hv⟩
        · exact absurd (by rw [MemoryStore.perform, hs]) hsame
        · rw [MemoryStore.perform, hv, if_pos rfl] at ha
          cases ha
          exact hc id provider a rfl
      · rcases clearAssignment_view s id g with hs | ⟨-, -, hv⟩
        · exact absurd (by rw [MemoryStore.perform, hs]) hsame
        · rw [MemoryStore.perform, hv, if_pos rfl] at ha
          cases ha
  obtain ⟨group, hgroup⟩ := stands
  exact ⟨group, targetGroup_stays hgroup c⟩

end MemoryStore

namespace Pool

section Groups

variable {rules : ServiceRules} {view : Surroundings → Surroundings} {w₀ w : World}
  {log : List (services rules view).Entry}

theorem Trace.created_stays
    (h : Trace (S := services rules view) (Operation.groupRules rules) w₀ w log) {i : Nat}
    {group : TargetGroup} (hg : group ∈ told created? (past log i)) :
    w.store.targetGroups[group.id]? = some group := by
  refine h.lasting (P := fun s g => s.targetGroups[g.id]? = some g) (fun ex g hex => ?_)
    (fun s g c hg => MemoryStore.targetGroup_stays hg c) (fun w' log' _ c g hc => ?_) hg
  · exact ⟨_, _, created?_eq_some hex⟩
  · have hex := created?_eq_some hc
    cases congrArg Exchange.call hex
    injection hex with _ hr
    exact (MemoryStore.insertTargetGroup_ok (Option.some.inj hr)).2

theorem Trace.found_stays
    (h : Trace (S := services rules view) (Operation.groupRules rules) w₀ w log) {i : Nat}
    {found : String × TargetGroup} (hf : found ∈ told groupFound? (past log i)) :
    w.store.targetGroups[found.1]? = some found.2 := by
  refine h.lasting (P := fun s f => s.targetGroups[f.1]? = some f.2) (fun ex f hex => ?_)
    (fun s f c hf => MemoryStore.targetGroup_stays hf c) (fun w' log' _ c f hc => ?_) hf
  · exact ⟨_, _, groupFound?_eq_some hex⟩
  · have hex := groupFound?_eq_some hc
    cases congrArg Exchange.call hex
    injection hex with _ hr
    exact MemoryStore.targetGroup_stays (Except.ok.inj (Option.some.inj hr)) _

/-- No id is inserted twice: a successful insertion finds its id free, and what was inserted before
is stored. -/
theorem Trace.created_nodup
    (h : Trace (S := services rules view) (Operation.groupRules rules) w₀ w log) :
    ((told created? (log.map (·.exchange))).map (·.id)).Nodup := by
  induction h with
  | init => exact List.nodup_nil
  | clock t _ ih => exact ih
  | @lost w log i o c ht ho hc ih =>
    rw [List.map_cons, told_cons]
    cases hex : created? (⟨c, none⟩ : Exchange Call.Reply) with
    | none => exact ih
    | some g => cases created?_eq_some hex
  | @answered w w' log x i o c r ht ho hc hw ih =>
    rw [List.map_cons, told_cons]
    cases hex : created? (⟨c, some r⟩ : Exchange Call.Reply) with
    | none => exact ih
    | some g =>
      refine List.nodup_cons.mpr ⟨fun hmem => ?_, ih⟩
      obtain ⟨earlier, he, hid : earlier.id = g.id⟩ := List.mem_map.mp hmem
      obtain ⟨ex, hex', he⟩ := List.mem_filterMap.mp he
      obtain ⟨e, helog, rfl⟩ := List.mem_map.mp hex'
      have hstored := ht.created_stays (mem_told_past_of_mem helog he)
      have hexch := created?_eq_some hex
      cases congrArg Exchange.call hexch
      injection hexch with _ hr
      cases Option.some.inj hr
      injection hw with hw
      have hok : (w.store.perform (.insertTargetGroup g)).1 = .ok () := congrArg Prod.fst hw
      have hfree := (MemoryStore.insertTargetGroup_ok hok).1
      rw [← hid, hstored] at hfree
      cases hfree

theorem Trace.groupsStand (h₀ : w₀.store.GroupsStand)
    (h : Trace (S := services rules view) (Operation.groupRules rules) w₀ w log) :
    w.store.GroupsStand := by
  induction h with
  | init => exact h₀
  | clock t _ ih => exact ih
  | lost _ _ _ ih => exact ih
  | answered ht _ hc hw ih =>
    rcases World.perform_store hw with ⟨c, rfl⟩ | ⟨hs, -⟩
    · cases hw
      refine ih.perform ?_
      rintro id provider a rfl
      obtain ⟨group, hgroup⟩ := Operation.groupFound_of_assign hc
      exact ⟨group, ht.found_stays hgroup⟩
    · rw [hs]
      exact ih

/-- The group of a binding that was found is stored, also when the binding is gone. -/
theorem Trace.binding_stands (h₀ : w₀.store.GroupsStand)
    (h : Trace (S := services rules view) (Operation.groupRules rules) w₀ w log) {i : Nat}
    {a : Assignment} (ha : a ∈ told bindingFound? (past log i)) :
    ∃ group : TargetGroup, w.store.targetGroups[a.targetGroupId]? = some group := by
  refine h.lasting
    (P := fun s a => ∃ group : TargetGroup, s.targetGroups[a.targetGroupId]? = some group)
    (fun ex a hex => ?_) (fun s a c ha => ?_) (fun w' log' ht c a hc => ?_) ha
  · obtain ⟨id, d, hex, -⟩ := bindingFound?_eq_some hex
    exact ⟨_, _, hex⟩
  · obtain ⟨group, hgroup⟩ := ha
    exact ⟨group, MemoryStore.targetGroup_stays hgroup c⟩
  · obtain ⟨id, d, hex, hd⟩ := bindingFound?_eq_some hc
    cases congrArg Exchange.call hex
    injection hex with _ hr
    have hrow : w'.store.deployments[id]? = some d := Except.ok.inj (Option.some.inj hr)
    exact ht.groupsStand h₀ id a (by rw [MemoryStore.assignmentOf, hrow]; exact hd)

theorem Trace.group_answered (h₀ : w₀.store.GroupsStand)
    (h : Trace (S := services rules view) (Operation.groupRules rules) w₀ w log)
    {e : (services rules view).Entry} (he : e ∈ log) {deployment : Deployment}
    (ho : e.op = .registerDeployment deployment) (k : String) :
    e.exchange ≠ ⟨.resource (.store (.getTargetGroup k)), some (.ok none)⟩ := by
  intro hex
  obtain ⟨newer, older, hlog⟩ := List.append_of_mem he
  obtain ⟨w', ht, hrule, hreply⟩ := h.at_call hlog
  obtain ⟨i, o, ex⟩ := e
  cases ho
  cases hex
  obtain ⟨a, ha, hk⟩ := hrule.2
  obtain ⟨group, hgroup⟩ := ht.binding_stands h₀ ha
  obtain ⟨x, w₂, hw⟩ := hreply _ rfl
  injection hw with hw
  have hnone : w'.store.targetGroups[k]? = none := Except.ok.inj (congrArg Prod.fst hw)
  rw [← hk, hgroup] at hnone
  cases hnone

end Groups

theorem group_stays {S : Pool} {s : S.State} {k : String} {group : TargetGroup}
    (h : s.world.store.targetGroups[k]? = some group) (moves : List S.Move) :
    (moves.foldl act s).world.store.targetGroups[k]? = some group := by
  induction moves generalizing s with
  | nil => exact h
  | cons m moves ih =>
    refine ih ?_
    rcases act_cases s m with hs | ⟨i, x, o, c, next, r, -, -, hw⟩
    · rw [hs]
      exact h
    · rcases World.perform_store hw with ⟨c, rfl⟩ | ⟨hs, -⟩
      · injection hw with hw
        have hstore := congrArg (fun pair => pair.2.store) hw
        exact hstore ▸ MemoryStore.targetGroup_stays h c
      · rw [hs]
        exact h

/-- However operations are interleaved over an empty store, and whatever they are answered. Where a
creation of an id has returned a group, every other one that has come to its end has failed; the
group has this id and the reference that was given, and it is stored, whole, from then on. A stored
group never changes. The group of every assignment is stored, so a registration never asks for a
group that is not there, and never fails for the want of one. -/
theorem run_write_once (rules : ServiceRules) (view : Surroundings → Surroundings) (pageSize : Nat)
    (clock : Instant) (moves more : List (services rules view).Move) :
    let s := run (World.fresh pageSize clock) moves
    let later := run (World.fresh pageSize clock) (moves ++ more)
    (∀ i id ref group, Returned s i (.createTargetGroup id ref) (.ok group) →
      (group.id = id ∧ group.targetSchema.source = ref) ∧
      later.world.store.targetGroups[id]? = some group ∧
      ∀ j ref' r, j ≠ i → Returned s j (.createTargetGroup id ref') r → ∃ e, r = .error e) ∧
    (∀ (k : String) (group : TargetGroup), s.world.store.targetGroups[k]? = some group →
      later.world.store.targetGroups[k]? = some group) ∧
    (∀ (k : String) (d : Deployment) (a : Assignment), s.world.store.deployments[k]? = some d →
      d.assignment = some a →
      ∃ group : TargetGroup, s.world.store.targetGroups[a.targetGroupId]? = some group) ∧
    (∀ e ∈ s.log, ∀ deployment, e.op = .registerDeployment deployment →
      ∀ k, e.exchange ≠ ⟨.resource (.store (.getTargetGroup k)), some (.ok none)⟩) ∧
    ∀ i deployment what, ¬ Returned s i (.registerDeployment deployment) (.error (.notFound what)) := by
  intro s later
  have keeps (moves : List (services rules view).Move) :
      Keeps (S := services rules view) (Operation.groupRules rules) Operation.outcome
        (World.fresh pageSize clock) (run (World.fresh pageSize clock) moves) :=
    run_keeps (Operation.program_dutiful rules) _ moves
  have h := keeps moves
  have stand : (World.fresh pageSize clock).store.GroupsStand :=
    MemoryStore.empty_groupsStand pageSize
  refine ⟨fun i id ref group hi => ?_, fun k group hk => ?_, fun k d a hd ha => ?_,
    fun e he deployment ho k => h.trace.group_answered stand he ho k, fun i deployment what hi => ?_⟩
  · obtain ⟨hid, hsource, hcreated⟩ := h.returned hi
    have hlog := mem_told_past_of_suffix (log_suffix (World.fresh pageSize clock) moves more) hcreated
    refine ⟨⟨hid, hsource⟩, ?_, fun j ref' r hj hr => ?_⟩
    · rw [← hid]
      exact (keeps (moves ++ more)).trace.created_stays hlog
    · cases r with
      | error e => exact ⟨e, rfl⟩
      | ok other =>
        obtain ⟨hid', -, hcreated'⟩ := h.returned hr
        -- both are stored under the one id, so the two tasks have inserted one group
        have hsame := h.trace.created_stays hcreated'
        rw [hid', ← hid, h.trace.created_stays hcreated] at hsame
        cases hsame
        exact absurd (eq_of_told_nodup h.trace.created_nodup.of_map hcreated' hcreated) hj
  · rw [show later = _ from run_append _ moves more]
    exact group_stays hk more
  · exact h.trace.groupsStand stand k a (by rw [MemoryStore.assignmentOf, hd]; exact ha)
  · obtain ⟨k, hk⟩ := h.returned hi
    obtain ⟨e, he, rfl, hex⟩ := mem_past.mp hk
    obtain ⟨t, ht, hop⟩ := h.tasks e he
    rw [hi] at ht
    cases ht
    exact h.trace.group_answered stand he hop.symm k hex

namespace TwoCreations

/-- One call of a task, where every provider declares its own version as the schema. -/
def call (task : Nat) : (services ⟨.enforced, .standard⟩).Move :=
  .proceed task { Surroundings.plain with
    registry := fun provider => .ok ⟨200, some ⟨provider, .string provider.version⟩, ""⟩ }

/-- Two creations of one id that make their calls in turn. -/
def moves : List (services ⟨.enforced, .standard⟩).Move :=
  .start (Operation.createTargetGroup "g" "acme/vault@1") ::
  .start (Operation.createTargetGroup "g" "acme/vault@2") ::
  (List.replicate 4 [call 0, call 1]).flatten

-- both find the id free and try to insert, and the first is stored
example :
    let s := run (World.fresh 50 ⟨0, 0⟩) moves
    (pending s 0).isNone ∧ (pending s 1).isNone ∧ s.log.length = 8 ∧
    s.world.store.targetGroups.values.map (·.targetSchema.source) = ["acme/vault@1"] := by
  decide +kernel

end TwoCreations

end Pool
end AccessGrants
