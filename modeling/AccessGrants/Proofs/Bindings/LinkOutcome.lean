import AccessGrants.Proofs.Alone.Reachable
import AccessGrants.Proofs.Bindings.Resolution
import AccessGrants.Proofs.Store.Answers

/-!
# AccessGrants.Proofs.Bindings.LinkOutcome

What linking a deployment comes to when nothing else runs, and how unlinking undoes it.

* `MemoryStore.Unbound`     — a target group and a deployment that are stored, and both free.
* `MemoryStore.withBinding` — the store with a deployment bound to a target group.
* `LinkAnswer`              — the answer of a link and the store that it leaves, case by case.
* `LinkAnswer.gives`        — a link comes to this answer.
* `unlinkDeployment_undoes` — what was bound is free again, and nothing else is changed.
* `link_and_unlink`         — so it is in every state that a store can come to.
-/

namespace AccessGrants

namespace MemoryStore

variable {s : MemoryStore} {g id : String} {group : TargetGroup} {d : Deployment}

/-- The target group and the deployment are stored, no deployment is assigned to the one, and the
other is assigned to none. -/
structure Unbound (s : MemoryStore) (g id : String) (group : TargetGroup) (d : Deployment) :
    Prop where
  group : s.targetGroups[g]? = some group
  deployment : s.deployments[id]? = some d
  vacant : ∀ k, ¬ s.Assigned k g
  free : d.assignment = none

/-- The deployment is bound to the target group, with its own diagnostics. -/
def withBinding (s : MemoryStore) (g id : String) (d : Deployment) (priority : Int) : MemoryStore :=
  { s with
    deployments := s.deployments.insert id { d with assignment := some ⟨g, priority, d.diagnostics⟩ }
    links := s.links.insert g id }

theorem Unbound.link_none (h : s.Unbound g id group d) (hl : s.LinksAgree) : s.links[g]? = none := by
  cases hk : s.links[g]? with
  | none => rfl
  | some k => exact absurd ((hl g k).mp hk) (h.vacant k)

theorem Unbound.assign (h : s.Unbound g id group d) (hl : s.LinksAgree) (priority : Int) :
    s.assignDeployment id d.provider (d.assignmentFor g priority) =
      (.ok { d with assignment := some ⟨g, priority, d.diagnostics⟩ },
        s.withBinding g id d priority) := by
  have hfree : d.isAssigned = false := by rw [Deployment.isAssigned, h.free]; rfl
  exact assign_of_free h.deployment hfree (h.link_none hl)

theorem Unbound.clear (h : s.Unbound g id group d) (hl : s.LinksAgree) (priority : Int) :
    (s.withBinding g id d priority).clearAssignment id g = (.ok d, s) := by
  have hbare : { d with assignment := none } = d := by rw [← h.free]
  have hd : (s.withBinding g id d priority).deployments[id]? =
      some { d with assignment := some ⟨g, priority, d.diagnostics⟩ } :=
    Std.ExtTreeMap.getElem?_insert_self
  have hlink : (s.withBinding g id d priority).links[g]? = some id :=
    Std.ExtTreeMap.getElem?_insert_self
  rw [clear_of_bound hd (assignedTo_iff.mpr ⟨_, rfl, rfl⟩), if_pos hlink]
  refine Prod.ext (congrArg Except.ok hbare) ?_
  have hdeployments : (s.withBinding g id d priority).deployments.insert id d = s.deployments := by
    rw [withBinding, insert_insert, insert_of_getElem?_eq_some h.deployment]
  have hlinks : (s.withBinding g id d priority).links.erase g = s.links := by
    rw [withBinding, erase_insert, erase_of_getElem?_eq_none (h.link_none hl)]
  show { s.withBinding g id d priority with
    deployments := (s.withBinding g id d priority).deployments.insert id { d with assignment := none }
    links := (s.withBinding g id d priority).links.erase g } = s
  rw [hbare, hdeployments, hlinks]
  rfl

end MemoryStore

open Service

namespace Bindings

section Links

variable {validation : SchemaValidation} {g id : String} {priority : Int} {schema : Json}
  {s stored : MemoryStore} {answer : Except ServiceError TargetGroup} {allowed : Moment → Prop}
  {past : Past}

/-- What a link answers and what it leaves in the store, when the provider of the deployment declares
the schema. The cases exclude each other. -/
inductive LinkAnswer (validation : SchemaValidation) (g id : String) (priority : Int) (schema : Json)
    (s : MemoryStore) : Except ServiceError TargetGroup → MemoryStore → Prop where
  | noGroup (hg : s.targetGroups[g]? = none) :
    LinkAnswer validation g id priority schema s (.error (.notFound (groupName g))) s
  | noDeployment {group} (hg : s.targetGroups[g]? = some group) (hd : s.deployments[id]? = none) :
    LinkAnswer validation g id priority schema s (.error (.notFound ("deployment " ++ id))) s
  | groupTaken {group d k} (hg : s.targetGroups[g]? = some group) (hd : s.deployments[id]? = some d)
    (hk : s.Assigned k g) :
    LinkAnswer validation g id priority schema s (.error (.alreadyLinked g)) s
  | deploymentTaken {group d a} (hg : s.targetGroups[g]? = some group)
    (hd : s.deployments[id]? = some d) (hvacant : ∀ k, ¬ s.Assigned k g)
    (ha : d.assignment = some a) :
    LinkAnswer validation g id priority schema s (.error (.alreadyLinked a.targetGroupId)) s
  | incompatible {group d} (h : s.Unbound g id group d) (hv : validation = .enforced)
    (hne : ¬ schema.Equivalent group.targetSchema.schema) :
    LinkAnswer validation g id priority schema s
      (.error (.incompatibleSchema g d.provider.render)) s
  | linked {group d} (h : s.Unbound g id group d)
    (hok : validation = .enforced → schema.Equivalent group.targetSchema.schema) :
    LinkAnswer validation g id priority schema s (.ok group) (s.withBinding g id d priority)

theorem exists_linkAnswer (validation : SchemaValidation) (g id : String) (priority : Int)
    (schema : Json) (s : MemoryStore) :
    ∃ answer stored, LinkAnswer validation g id priority schema s answer stored := by
  cases hg : s.targetGroups[g]? with
  | none => exact ⟨_, _, .noGroup hg⟩
  | some group =>
    cases hd : s.deployments[id]? with
    | none => exact ⟨_, _, .noDeployment hg hd⟩
    | some d =>
      by_cases hk : ∃ k, s.Assigned k g
      · obtain ⟨k, hk⟩ := hk
        exact ⟨_, _, .groupTaken hg hd hk⟩
      · have hvacant : ∀ k, ¬ s.Assigned k g := not_exists.mp hk
        cases ha : d.assignment with
        | some a => exact ⟨_, _, .deploymentTaken hg hd hvacant ha⟩
        | none =>
          have h : s.Unbound g id group d := ⟨hg, hd, hvacant, ha⟩
          by_cases hrefused :
              validation = .enforced ∧ ¬ schema.Equivalent group.targetSchema.schema
          · exact ⟨_, _, .incompatible h hrefused.1 hrefused.2⟩
          · exact ⟨_, _, .linked h fun hv => not_not.mp (not_and.mp hrefused hv)⟩

/-- What is read before a link is decided: both sides of it, and what the target group is linked to. -/
theorem linkReads_give {group : TargetGroup} {d : Deployment} {found : Option Deployment}
    {f : TargetGroup → Deployment → Option Deployment → Service TargetGroup}
    (hg : s.targetGroups[g]? = some group) (hd : s.deployments[id]? = some d)
    (hfound : s.findDeployment g = found)
    (h : ∀ past, (f group d found).Gives allowed answer stored s past) :
    Gives allowed (do
      let group ← getTargetGroup g
      let deployment ← orNotFound ("deployment " ++ id) (← store (.getDeployment id))
      f group deployment (← store (.findDeployment g))) answer stored s past := by
  have hread : s.perform (.getDeployment id) = (.ok (some d), s) := by rw [MemoryStore.perform, hd]
  have hfind : s.perform (.findDeployment g) = (.ok found, s) := by rw [MemoryStore.perform, hfound]
  refine (getTargetGroup_found hg).bind fun _ => ?_
  refine (gives_store hread).bind fun _ => ?_
  refine gives_orNotFound.bind fun _ => ?_
  exact (gives_store hfind).bind h

theorem LinkAnswer.gives (hlinks : s.LinksAgree) (hfiled : s.Filed)
    (hregistry : ∀ d, s.deployments[id]? = some d →
      ∀ m, allowed m → Resolves m.surroundings.registry d.provider schema)
    (h : LinkAnswer validation g id priority schema s answer stored) :
    (linkDeployment validation g id priority).Gives allowed answer stored s past := by
  rw [linkDeployment]
  cases h with
  | noGroup hg => exact (getTargetGroup_missing hg).bind_error
  | noDeployment hg hd =>
    have hread : s.perform (.getDeployment id) = (.ok none, s) := by rw [MemoryStore.perform, hd]
    refine (getTargetGroup_found hg).bind fun _ => ?_
    refine (gives_store hread).bind fun _ => ?_
    exact gives_notFound.bind_error
  | @groupTaken group d k hg hd hk =>
    obtain ⟨found, hfound, hassigned⟩ := hk
    have hfind : s.findDeployment g = some found :=
      hlinks.findDeployment_eq_some.mpr ⟨k, hfound, hassigned⟩
    exact linkReads_give hg hd hfind fun _ => gives_throw.bind_error
  | @deploymentTaken group d a hg hd hvacant ha =>
    refine linkReads_give hg hd (hlinks.findDeployment_eq_none.mpr hvacant) fun _ => ?_
    rw [ha]
    exact gives_throw
  | @incompatible group d h hv hne =>
    have hid : group.id = g := hfiled.targetGroups g group h.group
    refine linkReads_give h.group h.deployment (hlinks.findDeployment_eq_none.mpr h.vacant) fun _ => ?_
    rw [h.free, ← hid]
    simp only [if_pos hv]
    exact (ensureCompatible_refuses (hregistry d h.deployment) hne).bind_error
  | @linked group d h hok =>
    refine linkReads_give h.group h.deployment (hlinks.findDeployment_eq_none.mpr h.vacant) fun _ => ?_
    rw [h.free]
    have hassign := h.assign hlinks priority
    by_cases hv : validation = .enforced
    · simp only [if_pos hv]
      refine (ensureCompatible_passes (hregistry d h.deployment) (hok hv)).bind fun _ => ?_
      exact (gives_ask (c := .assignDeployment ..) hassign).bind fun _ => gives_pure
    · simp only [if_neg hv]
      exact (gives_ask (c := .assignDeployment ..) hassign).bind fun _ => gives_pure

theorem LinkAnswer.returns {s : Session} {moments : Nat → Moment} (hs : s.store.Reachable)
    (hregistry : ∀ d, s.store.deployments[id]? = some d →
      ∀ n, Resolves (moments n).surroundings.registry d.provider schema)
    (h : LinkAnswer validation g id priority schema s.store answer stored) :
    (linkDeployment validation g id priority).Returns moments s answer stored := by
  have hgives : (linkDeployment validation g id priority).Gives (fun m => ∃ n, m = moments n)
      answer stored s.store s.past := by
    refine h.gives hs.agree hs.filed ?_
    rintro d hd m ⟨n, rfl⟩
    exact hregistry d hd n
  exact hgives.returns fun n => ⟨n, rfl⟩

/-- A clearing of what was bound leaves the store as it was before the link. -/
theorem unlinkDeployment_undoes {group : TargetGroup} {d : Deployment}
    (h : s.Unbound g id group d) (hlinks : s.LinksAgree) (priority : Int) :
    (unlinkDeployment g id).Gives allowed (.ok d) s (s.withBinding g id d priority) past := by
  rw [unlinkDeployment]
  have hclear := h.clear hlinks priority
  exact (gives_ask (c := .clearAssignment id g) hclear).bind fun _ => gives_pure

theorem unlinkDeployment_refuses (h : ¬ s.Assigned id g) :
    (unlinkDeployment g id).Gives allowed
      (.error (.notFound ("deployment " ++ id ++ " linked to " ++ groupName g))) s s past := by
  have hdenied : ∀ d, s.deployments[id]? = some d → ¬ d.assignedTo g = true :=
    fun d hd hg => h ⟨d, hd, hg⟩
  rw [unlinkDeployment]
  have hclear := MemoryStore.clear_of_denied hdenied
  exact (gives_ask (c := .clearAssignment id g) hclear).bind fun _ => gives_throw

/-- In every state that a store can come to, a link has one answer. What it bound, an unlinking frees:
the store is as it was, and any free deployment with a fitting provider can be linked to the target
group. A pair that is not linked cannot be unlinked. -/
theorem link_and_unlink (validation : SchemaValidation) (g id : String) (priority : Int)
    (schema : Json) {s : Session} {moments : Nat → Moment} (hs : s.store.Reachable)
    (hregistry : ∀ d, s.store.deployments[id]? = some d →
      ∀ n, Resolves (moments n).surroundings.registry d.provider schema) :
    (∃ answer stored, LinkAnswer validation g id priority schema s.store answer stored) ∧
    (∀ answer stored, (linkDeployment validation g id priority).Returns moments s answer stored ↔
      LinkAnswer validation g id priority schema s.store answer stored) ∧
    (∀ group linked,
      (linkDeployment validation g id priority).run.finish moments s = (some (.ok group), linked) →
      ∃ d, s.store.deployments[id]? = some d ∧
      ∀ later, ∃ freed,
        (unlinkDeployment g id).run.finish later linked = (some (.ok d), freed) ∧
        freed.store = s.store ∧
        ∀ id' d' priority' schema' again, s.store.deployments[id']? = some d' → d'.assignment = none →
          (∀ n, Resolves (again n).surroundings.registry d'.provider schema') →
          (validation = .enforced → schema'.Equivalent group.targetSchema.schema) →
          (linkDeployment validation g id' priority').Returns again freed (.ok group)
            (s.store.withBinding g id' d' priority')) ∧
    ∀ g' id', ¬ s.store.Assigned id' g' → ∀ later, (unlinkDeployment g' id').Returns later s
      (.error (.notFound ("deployment " ++ id' ++ " linked to " ++ groupName g'))) s.store := by
  obtain ⟨answer, stored, hanswer⟩ := exists_linkAnswer validation g id priority schema s.store
  refine ⟨⟨answer, stored, hanswer⟩, fun answer' stored' => ⟨fun h => ?_,
    fun h => h.returns hs hregistry⟩, fun group linked hrun => ?_, fun g' id' hfree later => ?_⟩
  · obtain ⟨rfl, rfl⟩ := (hanswer.returns hs hregistry).unique h
    exact hanswer
  · obtain ⟨hok, hstored⟩ := (hanswer.returns hs hregistry).unique ⟨linked.past, hrun⟩
    cases hanswer with
    | @linked group' d h hfits =>
      cases hok
      refine ⟨d, h.deployment, fun later => ?_⟩
      have hundo : (unlinkDeployment g id).Gives (fun _ => True) (.ok d) s.store linked.store
          linked.past := hstored ▸ unlinkDeployment_undoes h hs.agree priority
      obtain ⟨past, hfreed⟩ : (unlinkDeployment g id).Returns later linked (.ok d) s.store :=
        hundo.returns fun _ => trivial
      refine ⟨⟨s.store, past⟩, hfreed, rfl, fun id' d' priority' schema' again hd' hfree hr hfits' => ?_⟩
      have hbare : s.store.Unbound g id' group d' := ⟨h.group, hd', h.vacant, hfree⟩
      refine (LinkAnswer.linked hbare hfits').returns (s := ⟨s.store, past⟩) hs fun found hfound n => ?_
      rw [hd'] at hfound
      cases hfound
      exact hr n
    | _ => cases hok
  · have hgives : (unlinkDeployment g' id').Gives (fun _ => True)
        (.error (.notFound ("deployment " ++ id' ++ " linked to " ++ groupName g'))) s.store s.store
        s.past := unlinkDeployment_refuses hfree
    exact hgives.returns fun _ => trivial

end Links

namespace TwoFree

/-! Two free deployments of one provider, and a target group with its schema. -/

def api : Provider := ⟨"acme", "api", "v2"⟩

def shape : Json := .object [("type", .string "object")]

def edge : TargetGroup := .create "edge" ⟨api.render, shape⟩ ⟨0, 0⟩

def web : Deployment := ⟨"web", api, none, [⟨.info, "up"⟩], none⟩

def spare : Deployment := ⟨"spare", api, none, [], none⟩

def session : Session where
  store := (MemoryStore.empty 10).run
    [.insertTargetGroup edge, .upsertDeployment web .any, .upsertDeployment spare .any]
  past := []

def moments (_ : Nat) : Moment where
  surroundings := { Surroundings.plain with
    registry := fun provider => .ok ⟨200, some ⟨provider, shape⟩, ""⟩ }
  clock := ⟨0, 0⟩

theorem resolves (n : Nat) (provider : Provider) :
    Resolves (moments n).surroundings.registry provider shape :=
  ⟨⟨200, some ⟨provider, shape⟩, ""⟩, ⟨provider, shape⟩, rfl, rfl, rfl, rfl⟩

theorem relinked :
    session.store.Reachable ∧
    (∀ d, session.store.deployments["web"]? = some d →
      ∀ n, Resolves (moments n).surroundings.registry d.provider shape) ∧
    ∃ linked freed,
      (linkDeployment .enforced "edge" "web" 1).run.finish moments session =
        (some (.ok edge), linked) ∧
      (unlinkDeployment "edge" "web").run.finish moments linked = (some (.ok web), freed) ∧
      freed.store = session.store ∧
      (linkDeployment .enforced "edge" "spare" 2).Returns moments freed (.ok edge)
        (session.store.withBinding "edge" "spare" spare 2) := by
  have hreachable : session.store.Reachable := (MemoryStore.reachable_empty 10).run _
  have hregistry : ∀ d, session.store.deployments["web"]? = some d →
      ∀ n, Resolves (moments n).surroundings.registry d.provider shape := fun d _ n => resolves n _
  obtain ⟨-, hreturns, hundone, -⟩ := link_and_unlink .enforced "edge" "web" 1 shape
    hreachable hregistry
  have hweb : session.store.deployments["web"]? = some web := by decide +kernel
  have hfree : ∀ k, ¬ session.store.Assigned k "edge" := by
    refine (hreachable.agree.findDeployment_eq_none (g := "edge")).mp ?_
    decide +kernel
  have hbare : session.store.Unbound "edge" "web" edge web :=
    ⟨by decide +kernel, hweb, hfree, rfl⟩
  obtain ⟨past, hlink⟩ := (hreturns _ _).mpr (.linked hbare fun _ => by decide +kernel)
  obtain ⟨d, hd, hunlink⟩ := hundone _ _ hlink
  rw [hweb] at hd
  cases hd
  obtain ⟨freed, hfreed, hstore, hagain⟩ := hunlink moments
  exact ⟨hreachable, hregistry, _, freed, hlink, hfreed, hstore,
    hagain "spare" spare 2 shape moments (by decide +kernel) rfl (fun n => resolves n _)
      fun _ => by decide +kernel⟩

end TwoFree

end Bindings
end AccessGrants
