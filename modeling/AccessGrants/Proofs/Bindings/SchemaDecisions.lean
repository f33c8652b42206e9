import AccessGrants.Proofs.Bindings.LinkOutcome
import AccessGrants.Proofs.Concurrency.Operations
import AccessGrants.Proofs.Document.Sameness

/-!
# AccessGrants.Proofs.Bindings.SchemaDecisions

Wherever schemas are compared, the decision is the same: in the comparison of two providers, in a
link, and in the registration of a deployment that is bound already.

* `Serves`                     — the registry has this content at a moment.
* `Compatibility.Answers`      — the comparison of two providers always has this answer.
* `answers_iff`                — it says whether the declared schemas are equivalent.
* `createTargetGroup_captures` — a target group is created with the schema of its provider.
* `registerDeployment_writes`  — a registration writes what its guard lets through.
* `reregistration`             — a bound deployment may run what is compatible with its target group.
* `schema_decisions`           — so the three decisions are one, and it is an equivalence.
-/

namespace AccessGrants

/-- The registry has this content at the moment. -/
def Serves (registry : Provider → Except RegistryError RegistryAnswer) (m : Moment) : Prop :=
  m.surroundings.registry = registry

open Service

variable {registry : Provider → Except RegistryError RegistryAnswer} {p q r : Provider}
  {a b schema : Json} {s : MemoryStore} {past : Past}

theorem Resolves.at (h : Resolves registry p schema) {m : Moment} (hm : Serves registry m) :
    Resolves m.surroundings.registry p schema := by
  rw [hm]
  exact h

theorem not_resolves_at (h : ¬ ∃ schema, Resolves registry p schema) {m : Moment}
    (hm : Serves registry m) (schema : Json) : ¬ Resolves m.surroundings.registry p schema := by
  rw [hm]
  exact fun hr => h ⟨schema, hr⟩

namespace Compatibility

/-- However often and in whatever state the two providers are compared, the answer is this one, and
nothing is changed. -/
def Answers (registry : Provider → Except RegistryError RegistryAnswer) (p q : Provider) (v : Bool) :
    Prop :=
  ∀ (moments : Nat → Moment) (s : Session), (∀ n, Serves registry (moments n)) →
    (areCompatible p q).Returns moments s (.ok v) s.store

theorem areCompatible_gives (hp : Resolves registry p a) (hq : Resolves registry q b) :
    (areCompatible p q).Gives (Serves registry) (.ok (decide (a.Equivalent b))) s s past := by
  rw [areCompatible]
  refine (targetSchema_found fun m => hp.at).bind fun _ => ?_
  refine (targetSchema_found fun m => hq.at).bind fun _ => ?_
  exact gives_pure

theorem areCompatible_fails
    (h : ¬ ((∃ a, Resolves registry p a) ∧ ∃ b, Resolves registry q b)) :
    (areCompatible p q).Attains (Serves registry) (fun _ _ _ => False)
      (fun s' _ e => s' = s ∧ ∃ detail, e = .registryFailed detail) s past := by
  rw [areCompatible]
  by_cases hp : ∃ a, Resolves registry p a
  · have hq : ¬ ∃ b, Resolves registry q b := fun hq => h ⟨hp, hq⟩
    obtain ⟨a, hp⟩ := hp
    refine (targetSchema_found fun m => hp.at).attains_bind fun _ => ?_
    exact (targetSchema_fails fun m => not_resolves_at hq).bind_fails
  · exact (targetSchema_fails fun m => not_resolves_at hp).bind_fails

/-- A moment at which the registry has this content. -/
def momentWith (registry : Provider → Except RegistryError RegistryAnswer) : Moment :=
  ⟨{ Surroundings.plain with registry }, ⟨0, 0⟩⟩

/-- The comparison has an answer for the providers that resolve, and says whether their schemas are
equivalent. -/
theorem answers_iff {v : Bool} :
    Answers registry p q v ↔
      ∃ a b, Resolves registry p a ∧ Resolves registry q b ∧ v = decide (a.Equivalent b) := by
  constructor
  · intro h
    have hserves : ∀ n : Nat, Serves registry ((fun _ => momentWith registry) n) := fun _ => rfl
    have hreturns := h _ (.start 0) hserves
    by_cases hr : (∃ a, Resolves registry p a) ∧ ∃ b, Resolves registry q b
    · obtain ⟨⟨a, hp⟩, b, hq⟩ := hr
      obtain ⟨heq, -⟩ := hreturns.unique ((areCompatible_gives hp hq).returns hserves)
      exact ⟨a, b, hp, hq, Except.ok.inj heq⟩
    · obtain ⟨past, hrun⟩ := hreturns
      obtain ⟨answer, s', hdone, e, rfl⟩ := Attains.finish (fun _ _ answer => ∃ e, answer = .error e)
        ((areCompatible_fails hr).mono (fun _ _ _ => False.elim) fun _ _ e _ => ⟨e, rfl⟩) hserves
      rw [hrun] at hdone
      cases hdone
  · rintro ⟨a, b, hp, hq, rfl⟩ moments s hm
    exact (areCompatible_gives hp hq).returns hm

theorem answers_true_iff (hp : Resolves registry p a) (hq : Resolves registry q b) :
    Answers registry p q true ↔ a.Equivalent b := by
  rw [answers_iff]
  constructor
  · rintro ⟨a', b', hp', hq', heq⟩
    rw [hp.unique hp', hq.unique hq']
    exact of_decide_eq_true heq.symm
  · intro heq
    exact ⟨a, b, hp, hq, (decide_eq_true heq).symm⟩

theorem answers_false_iff (hp : Resolves registry p a) (hq : Resolves registry q b) :
    Answers registry p q false ↔ ¬ a.Equivalent b := by
  rw [answers_iff]
  constructor
  · rintro ⟨a', b', hp', hq', heq⟩
    rw [hp.unique hp', hq.unique hq']
    exact of_decide_eq_false heq.symm
  · intro hne
    exact ⟨a, b, hp, hq, (decide_eq_false hne).symm⟩

theorem answers_refl (hp : Resolves registry p a) : Answers registry p p true :=
  (answers_true_iff hp hp).mpr rfl

theorem Answers.symm {v : Bool} (h : Answers registry p q v) : Answers registry q p v := by
  obtain ⟨a, b, hp, hq, rfl⟩ := answers_iff.mp h
  exact answers_iff.mpr ⟨b, a, hq, hp, decide_eq_decide.mpr eq_comm⟩

theorem Answers.trans (h : Answers registry p q true) (h' : Answers registry q r true) :
    Answers registry p r true := by
  obtain ⟨a, b, hp, hq, hab⟩ := answers_iff.mp h
  obtain ⟨b', c, hq', hr, hbc⟩ := answers_iff.mp h'
  have heq : a.Equivalent b := of_decide_eq_true hab.symm
  have heq' : b'.Equivalent c := of_decide_eq_true hbc.symm
  rw [← hq.unique hq'] at heq'
  exact (answers_true_iff hp hr).mpr (Eq.trans heq heq')

end Compatibility

namespace Bindings

open Compatibility

variable {g reference : String} {group : TargetGroup} {d again : Deployment}
  {guard : AssignmentGuard} {validation : SchemaValidation} {allowed : Moment → Prop}
  {e : ServiceError}

theorem createTargetGroup_captures (hparse : Provider.parse reference = .ok p)
    (hfree : s.targetGroups[g]? = none) (hp : Resolves registry p schema) :
    (createTargetGroup g reference).Attains (Serves registry)
      (fun s' _ group => group.id = g ∧ group.targetSchema = ⟨reference, schema⟩ ∧
        s' = { s with targetGroups := s.targetGroups.insert g group })
      (fun _ _ _ => False) s past := by
  rw [createTargetGroup]
  have hread : s.perform (.getTargetGroup g) = (.ok none, s) := by rw [MemoryStore.perform, hfree]
  refine (gives_store hread).attains_bind fun _ => ?_
  simp only [Option.isSome_none, Bool.false_eq_true, if_false, hparse]
  refine (targetSchema_found fun m => hp.at).attains_bind fun _ => ?_
  rw [attains_bind]
  refine attains_now fun m _ => ?_
  have hinsert : s.perform (.insertTargetGroup (.create g ⟨reference, schema⟩ m.clock)) =
      (.ok (), { s with targetGroups :=
        s.targetGroups.insert g (.create g ⟨reference, schema⟩ m.clock) }) := by
    simp [MemoryStore.perform, MemoryStore.insertTargetGroup, TargetGroup.create,
      Std.ExtTreeMap.contains_eq_isSome_getElem?, hfree]
  exact (gives_ask hinsert).attains_bind fun _ => ⟨rfl, rfl, rfl⟩

theorem registerDeployment_writes
    (hguard : ∀ past, (registrationGuard validation s.deployments[d.id]? d).Gives allowed (.ok guard)
      s s past)
    (hallows : MemoryStore.allows guard s.deployments[d.id]? = true) :
    (registerDeployment validation d).Gives allowed
      (.ok (MemoryStore.merged d s.deployments[d.id]?))
      { s with
        deployments := s.deployments.insert d.id (MemoryStore.merged d s.deployments[d.id]?) }
      s past := by
  rw [registerDeployment, registerAttempts, registerWithin]
  have hread : s.perform (.getDeployment d.id) = (.ok s.deployments[d.id]?, s) := rfl
  have hwrite := MemoryStore.upsert_of_allowed hallows
  refine (gives_store hread).bind fun _ => (hguard _).bind fun _ => ?_
  exact (gives_ask (c := .upsertDeployment d guard) hwrite).bind fun _ => gives_pure

theorem registerDeployment_fails {err : MemoryStore → Past → ServiceError → Prop}
    (hguard : ∀ past, (registrationGuard validation s.deployments[d.id]? d).Attains allowed
      (fun _ _ _ => False) err s past) :
    (registerDeployment validation d).Attains allowed (fun _ _ _ => False) err s past := by
  rw [registerDeployment, registerAttempts, registerWithin]
  have hread : s.perform (.getDeployment d.id) = (.ok s.deployments[d.id]?, s) := rfl
  exact (gives_store hread).attains_bind fun _ => (hguard _).bind_fails

theorem registrationGuard_new :
    (registrationGuard .enforced none d).Gives allowed (.ok .unassigned) s s past := gives_pure

/-- A provider that stays needs no guard. -/
theorem registrationGuard_same {existing : Deployment} (h : d.provider = existing.provider) :
    (registrationGuard .enforced (some existing) d).Gives allowed (.ok .any) s s past := by
  simp only [registrationGuard, Option.all_some, h, ne_eq, not_true_eq_false, decide_false,
    Bool.false_eq_true, not_false_eq_true, or_true, if_true]
  exact gives_pure

theorem registrationGuard_bound {existing : Deployment} (hne : d.provider ≠ existing.provider)
    (hg : existing.assignedTo g = true) :
    registrationGuard .enforced (some existing) d = (do
      let group ← getTargetGroup g
      ensureCompatible group d.provider
      return .assignedTo group.id) := by
  obtain ⟨assignment, ha, rfl⟩ := MemoryStore.assignedTo_iff.mp hg
  simp [registrationGuard, ha, Ne.symm hne]

theorem registrationGuard_admits {existing : Deployment} (hgroup : s.targetGroups[g]? = some group)
    (hid : group.id = g) (hne : d.provider ≠ existing.provider) (hg : existing.assignedTo g = true)
    (hq : Resolves registry d.provider b) (hfits : b.Equivalent group.targetSchema.schema) :
    (registrationGuard .enforced (some existing) d).Gives (Serves registry) (.ok (.assignedTo g)) s s
      past := by
  rw [registrationGuard_bound hne hg]
  refine (getTargetGroup_found hgroup).bind fun _ => ?_
  refine (ensureCompatible_passes (fun m => hq.at) hfits).bind fun _ => ?_
  rw [hid]
  exact gives_pure

theorem registrationGuard_refuses {existing : Deployment}
    (hgroup : s.targetGroups[g]? = some group) (hne : d.provider ≠ existing.provider)
    (hg : existing.assignedTo g = true) (hp : Resolves registry p group.targetSchema.schema)
    (hanswer : ¬ Answers registry p d.provider true) :
    (registrationGuard .enforced (some existing) d).Attains (Serves registry) (fun _ _ _ => False)
      (fun _ _ _ => True) s past := by
  rw [registrationGuard_bound hne hg]
  refine (getTargetGroup_found hgroup).attains_bind fun _ => Attains.bind_fails ?_
  by_cases hq : ∃ b, Resolves registry d.provider b
  · obtain ⟨b, hq⟩ := hq
    have hne : ¬ b.Equivalent group.targetSchema.schema := fun h =>
      hanswer ((answers_true_iff hp hq).mpr h.symm)
    exact (ensureCompatible_refuses (fun m => hq.at) hne).mono (fun _ _ _ h => nomatch h.1)
      fun _ _ _ _ => trivial
  · rw [ensureCompatible]
    refine Attains.bind_fails ?_
    exact (targetSchema_fails fun m => not_resolves_at hq).mono (fun _ _ _ => id)
      fun _ _ _ _ => trivial

/-- Registered again, a bound deployment may keep its provider, and may have any that is compatible
with the one that its target group was created from. -/
theorem reregistration (hgroup : s.targetGroups[g]? = some group) (hid : group.id = g)
    (hp : Resolves registry p group.targetSchema.schema) (hd : s.deployments[again.id]? = some d)
    (hg : d.assignedTo g = true) :
    (registerDeployment .enforced again).Attains (Serves registry)
      (fun _ _ _ => again.provider = d.provider ∨ Answers registry p again.provider true)
      (fun _ _ _ => ¬ (again.provider = d.provider ∨ Answers registry p again.provider true))
      s past := by
  have hwrites {guard} (hguard : ∀ past, (registrationGuard .enforced (some d) again).Gives
      (Serves registry) (.ok guard) s s past) (hallows : MemoryStore.allows guard (some d) = true) :
      (registerDeployment .enforced again).Attains (Serves registry) (fun _ _ _ => True)
        (fun _ _ _ => False) s past := by
    rw [← hd] at hguard hallows
    exact (registerDeployment_writes hguard hallows).mono (fun _ _ _ _ => trivial)
      fun _ _ _ h => nomatch h.1
  by_cases hsame : again.provider = d.provider
  · exact (hwrites (fun _ => registrationGuard_same hsame) rfl).mono
      (fun _ _ _ _ => .inl hsame) fun _ _ _ => False.elim
  · by_cases hanswer : Answers registry p again.provider true
    · obtain ⟨_, b, hp', hq, heq⟩ := answers_iff.mp hanswer
      rw [hp'.unique hp] at heq
      have hfits : b.Equivalent group.targetSchema.schema := (of_decide_eq_true heq.symm).symm
      exact (hwrites (fun _ => registrationGuard_admits hgroup hid hsame hg hq hfits) hg).mono
        (fun _ _ _ _ => .inr hanswer) fun _ _ _ => False.elim
    · have hguard : ∀ past, (registrationGuard .enforced s.deployments[again.id]? again).Attains
          (Serves registry) (fun _ _ _ => False) (fun _ _ _ => True) s past := by
        intro past
        rw [hd]
        exact registrationGuard_refuses hgroup hsame hg hp hanswer
      exact (registerDeployment_fails hguard).mono (fun _ _ _ => False.elim)
        fun _ _ _ _ => not_or.mpr ⟨hsame, hanswer⟩

theorem created_alone (g : String) (hparse : Provider.parse reference = .ok p)
    (hp : Resolves registry p a) (pageSize : Nat) {moments : Nat → Moment}
    (hm : ∀ n, Serves registry (moments n)) :
    ∃ group created,
      (createTargetGroup g reference).run.finish moments (.start pageSize) = (some (.ok group), created) ∧
      group.id = g ∧ group.targetSchema = ⟨reference, a⟩ ∧
      created.store = { MemoryStore.empty pageSize with
        targetGroups := (MemoryStore.empty pageSize).targetGroups.insert g group } := by
  have hnone : (MemoryStore.empty pageSize).targetGroups[g]? = none :=
    Std.ExtTreeMap.getElem?_empty
  obtain ⟨answer, created, hrun, group, rfl, hgroup⟩ := Attains.finish (s := .start pageSize)
    (fun s' _ answer => ∃ group, answer = .ok group ∧ group.id = g ∧
      group.targetSchema = ⟨reference, a⟩ ∧
      s' = { MemoryStore.empty pageSize with
        targetGroups := (MemoryStore.empty pageSize).targetGroups.insert g group })
    ((createTargetGroup_captures hparse hnone hp).mono
      (fun _ _ group h => ⟨group, rfl, h⟩) fun _ _ _ => False.elim) hm
  exact ⟨group, created, hrun, hgroup⟩

theorem registered_alone (d : Deployment) {created : Session}
    (hgroup : created.store.targetGroups[g]? = some group)
    (hempty : created.store.deployments = ∅) {moments : Nat → Moment}
    (hm : ∀ n, Serves registry (moments n)) :
    ∃ registered,
      (registerDeployment .enforced d).run.finish moments created =
        (some (.ok { d with assignment := none }), registered) ∧
      registered.store.Unbound g d.id group { d with assignment := none } := by
  have hnone : created.store.deployments[d.id]? = none := by
    rw [hempty]
    exact Std.ExtTreeMap.getElem?_empty
  have hguard : ∀ past, (registrationGuard .enforced created.store.deployments[d.id]? d).Gives
      (Serves registry) (.ok .unassigned) created.store created.store past := by
    intro past
    rw [hnone]
    exact registrationGuard_new
  obtain ⟨past, hrun⟩ := (registerDeployment_writes hguard (by rw [hnone]; rfl)).returns hm
  rw [hnone] at hrun
  refine ⟨_, hrun, hgroup, Std.ExtTreeMap.getElem?_insert_self, ?_, rfl⟩
  rintro k ⟨stored, hstored, hto⟩
  have hinsert : (created.store.deployments.insert d.id (MemoryStore.merged d none))[k]? =
    some stored := hstored
  rw [MemoryStore.getElem?_insert_row, hempty, Std.ExtTreeMap.getElem?_empty] at hinsert
  split at hinsert
  · cases hinsert
    cases hto
  · cases hinsert

/-- A link of a free deployment to a free target group asks what a comparison of the providers asks. -/
theorem link_decides {d : Deployment} {id : String} {registered : Session}
    (hreachable : registered.store.Reachable) (hbare : registered.store.Unbound g id group d)
    (hp : Resolves registry p group.targetSchema.schema) (hq : Resolves registry d.provider b)
    (priority : Int) {moments : Nat → Moment} (hm : ∀ n, Serves registry (moments n)) :
    ∃ answer linked,
      (linkDeployment .enforced g id priority).run.finish moments registered = (some answer, linked) ∧
      (answer = .ok group ↔ Answers registry p d.provider true) ∧
      (answer = .error (.incompatibleSchema g d.provider.render) ↔
        Answers registry p d.provider false) := by
  have hregistry : ∀ found, registered.store.deployments[id]? = some found →
      ∀ n, Resolves (moments n).surroundings.registry found.provider b := by
    intro found hfound n
    rw [hbare.deployment] at hfound
    cases hfound
    exact hq.at (hm n)
  rw [answers_true_iff hp hq, answers_false_iff hp hq]
  by_cases heq : b.Equivalent group.targetSchema.schema
  · have hanswer : LinkAnswer .enforced g id priority b registered.store (.ok group)
        (registered.store.withBinding g id d priority) := .linked hbare fun _ => heq
    obtain ⟨past, hrun⟩ := hanswer.returns hreachable hregistry
    exact ⟨_, _, hrun, ⟨fun _ => heq.symm, fun _ => rfl⟩, nofun, fun hne => absurd heq.symm hne⟩
  · have hanswer : LinkAnswer .enforced g id priority b registered.store
        (.error (.incompatibleSchema g d.provider.render)) registered.store :=
      .incompatible hbare rfl heq
    obtain ⟨past, hrun⟩ := hanswer.returns hreachable hregistry
    exact ⟨_, _, hrun, ⟨nofun, fun h => absurd h.symm heq⟩, fun _ h => heq h.symm, fun _ => rfl⟩

/-- Every registration comes to its end, and a bound deployment is registered again exactly when its
provider stays or is compatible. -/
theorem registration_decides {s : Session} (hgroup : s.store.targetGroups[g]? = some group)
    (hid : group.id = g) (hp : Resolves registry p group.targetSchema.schema)
    (hd : s.store.deployments[again.id]? = some d) (hg : d.assignedTo g = true)
    {moments : Nat → Moment} (hm : ∀ n, Serves registry (moments n)) :
    ∃ answer s', (registerDeployment .enforced again).run.finish moments s = (some answer, s') ∧
      ((∃ stored, answer = .ok stored) ↔
        again.provider = d.provider ∨ Answers registry p again.provider true) := by
  obtain ⟨answer, s', hrun, hiff⟩ := Attains.finish
    (fun _ _ answer => (∃ stored, answer = .ok stored) ↔
      again.provider = d.provider ∨ Answers registry p again.provider true)
    ((reregistration hgroup hid hp hd hg).mono
      (fun _ _ stored h => ⟨fun _ => h, fun _ => ⟨stored, rfl⟩⟩)
      fun _ _ _ h => ⟨nofun, fun h' => absurd h' h⟩) hm
  exact ⟨answer, s', hrun, hiff⟩

/-- For every content of the registry: the comparison of providers is an equivalence on those that
resolve, and says whether their schemas say the same. A target group that is created from one provider,
and a deployment that is registered with another, are linked when the comparison says so. Later on,
whatever else is done, a deployment of the target group may change to the providers that the comparison
admits, and to no others. -/
theorem schema_decisions (registry : Provider → Except RegistryError RegistryAnswer) :
    (∀ p, (∃ schema, Resolves registry p schema) → Answers registry p p true) ∧
    (∀ p q v, Answers registry p q v → Answers registry q p v) ∧
    (∀ p q r, Answers registry p q true → Answers registry q r true → Answers registry p r true) ∧
    (∀ p q v w a b, Resolves registry p v → Resolves registry q w → Draft.Reads a v →
      Draft.Reads b w → (Answers registry p q true ↔ a.SameValue b) ∧
        (Answers registry p q false ↔ ¬ a.SameValue b)) ∧
    ∀ p reference g (d : Deployment) priority pageSize,
      Provider.parse reference = .ok p → (∃ schema, Resolves registry p schema) →
      (∃ schema, Resolves registry d.provider schema) →
      ∀ creating registering linking : Nat → Moment, (∀ n, Serves registry (creating n)) →
        (∀ n, Serves registry (registering n)) → (∀ n, Serves registry (linking n)) →
      ∃ group created stored registered answer linked,
        (createTargetGroup g reference).run.finish creating (.start pageSize) =
          (some (.ok group), created) ∧
        (registerDeployment .enforced d).run.finish registering created =
          (some (.ok stored), registered) ∧
        (linkDeployment .enforced g d.id priority).run.finish linking registered =
          (some answer, linked) ∧
        (answer = .ok group ↔ Answers registry p d.provider true) ∧
        (answer = .error (.incompatibleSchema g d.provider.render) ↔
          Answers registry p d.provider false) ∧
        ∀ rules turns bound (again : Deployment) (moments : Nat → Moment),
          (linked.after (Operation.program rules) turns).store.deployments[again.id]? = some bound →
          bound.assignedTo g = true → (∀ n, Serves registry (moments n)) →
          ∃ answer' s', (registerDeployment .enforced again).run.finish moments
              (linked.after (Operation.program rules) turns) = (some answer', s') ∧
            ((∃ stored', answer' = .ok stored') ↔
              again.provider = bound.provider ∨ Answers registry p again.provider true) := by
  refine ⟨?_, fun p q v => Answers.symm, fun p q r => Answers.trans, ?_, ?_⟩
  · rintro p ⟨schema, hp⟩
    exact answers_refl hp
  · intro p q v w a b hp hq ha hb
    rw [answers_true_iff hp hq, answers_false_iff hp hq, Draft.equivalent_iff ha hb]
    exact ⟨Iff.rfl, Iff.rfl⟩
  · rintro p reference g d priority pageSize hparse ⟨schema, hp⟩ ⟨schema', hq⟩ creating registering
      linking hcreating hregistering hlinking
    obtain ⟨group, created, hcreate, hid, hschema, hstore⟩ :=
      created_alone g hparse hp pageSize hcreating
    have hcreated : created.store.targetGroups[g]? = some group := by
      rw [hstore]
      exact Std.ExtTreeMap.getElem?_insert_self
    obtain ⟨registered, hregister, hbare⟩ :=
      registered_alone d hcreated (by rw [hstore]; rfl) hregistering
    have hreachable : registered.store.Reachable :=
      Interaction.finish_reachable
        (Interaction.finish_reachable (MemoryStore.reachable_empty pageSize) hcreate) hregister
    have hcaptured : Resolves registry p group.targetSchema.schema := by rw [hschema]; exact hp
    obtain ⟨answer, linked, hlink, hok, hrefused⟩ :=
      link_decides hreachable hbare hcaptured hq priority hlinking
    refine ⟨group, created, _, registered, answer, linked, hcreate, hregister, hlink, hok, hrefused,
      fun rules turns bound again moments hbound hto hm => ?_⟩
    obtain ⟨calls, hcalls⟩ := linked.after_calls (Operation.program rules) turns
    have hstays := MemoryStore.targetGroup_stays_run
      (Interaction.targetGroup_stays hbare.group hlink) calls
    rw [← hcalls] at hstays
    exact registration_decides hstays hid hcaptured hbound hto hm

namespace ThreeShapes

/-! Three versions of one provider. The second writes its schema with the keys in another order, the
third with a float for a whole number. -/

def v1 : Provider := ⟨"acme", "disk", "v1"⟩

def v2 : Provider := ⟨"acme", "disk", "v2"⟩

def v3 : Provider := ⟨"acme", "disk", "v3"⟩

def one : Binary64 := ⟨false, ⟨Magnitude.leastMantissa, -52⟩⟩

def document (p : Provider) : Draft :=
  if p = v1 then .object [("size", .int 1), ("unit", .string "GB")] true
  else if p = v2 then .object [("unit", .string "GB"), ("size", .int 1)] true
  else .object [("size", .float one), ("unit", .string "GB")] true

def declared (p : Provider) : Json :=
  if p = v3 then .object [("size", .float one), ("unit", .string "GB")]
  else .object [("size", .int 1), ("unit", .string "GB")]

def versions (p : Provider) : Except RegistryError RegistryAnswer :=
  .ok ⟨200, some ⟨p, declared p⟩, ""⟩

def web : Deployment := ⟨"web", v2, none, [], none⟩

theorem resolves (p : Provider) : Resolves versions p (declared p) :=
  ⟨⟨200, some ⟨p, declared p⟩, ""⟩, ⟨p, declared p⟩, rfl, rfl, rfl, rfl⟩

theorem turned_keys_link :
    Provider.parse "acme/disk@v1" = .ok v1 ∧
    (document v1).SameValue (document v2) ∧ ¬ (document v1).SameValue (document v3) ∧
    ∃ group created stored registered linked,
      (createTargetGroup "edge" "acme/disk@v1").run.finish (fun _ => momentWith versions) (.start 10) =
        (some (.ok group), created) ∧
      (registerDeployment .enforced web).run.finish (fun _ => momentWith versions) created =
        (some (.ok stored), registered) ∧
      (linkDeployment .enforced "edge" "web" 1).run.finish (fun _ => momentWith versions) registered =
        (some (.ok group), linked) := by
  have hparse : Provider.parse "acme/disk@v1" = .ok v1 := by decide +kernel
  obtain ⟨-, -, -, hsame, hlink⟩ := schema_decisions versions
  have hread : ∀ p ∈ [v1, v2, v3], (document p).Reads (declared p) := by
    unfold Draft.Reads
    decide +kernel
  have hturned := (hsame v1 v2 _ _ _ _ (resolves v1) (resolves v2) (hread v1 (by decide))
    (hread v2 (by decide))).1
  have hscaled := (hsame v1 v3 _ _ _ _ (resolves v1) (resolves v3) (hread v1 (by decide))
    (hread v3 (by decide))).2
  have hyes : Answers versions v1 v2 true :=
    (answers_true_iff (resolves v1) (resolves v2)).mpr (by decide +kernel)
  have hno : Answers versions v1 v3 false :=
    (answers_false_iff (resolves v1) (resolves v3)).mpr (by decide +kernel)
  obtain ⟨group, created, stored, registered, answer, linked, hcreate, hregister, hrun, hok, -⟩ :=
    hlink v1 "acme/disk@v1" "edge" web 1 10 hparse ⟨_, resolves v1⟩ ⟨_, resolves v2⟩
      (fun _ => momentWith versions) (fun _ => momentWith versions) (fun _ => momentWith versions)
      (fun _ => rfl) (fun _ => rfl) fun _ => rfl
  rw [hok.mpr hyes] at hrun
  exact ⟨hparse, hturned.mp hyes, hscaled.mp hno, group, created, stored, registered, linked, hcreate,
    hregister, hrun⟩

end ThreeShapes

end Bindings

end AccessGrants
