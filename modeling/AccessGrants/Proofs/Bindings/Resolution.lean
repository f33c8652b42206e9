import AccessGrants.Proofs.Alone.Determined
import AccessGrants.Service.Bindings

/-!
# AccessGrants.Proofs.Bindings.Resolution

What the registry answers about a provider, and what the services make of it when they run alone.

* `Resolves`                 — the provider is known and declares a schema.
* `targetSchema_found`, `targetSchema_fails` — the schema is found, or the registry is to blame.
* `getTargetGroup_found`, `getTargetGroup_missing` — a look-up of a target group.
* `ensureCompatible_passes`, `ensureCompatible_refuses` — the schema of a target group decides.
-/

namespace AccessGrants

/-- The registry answers with success that a provider declares this target schema. -/
def Resolves (registry : Provider → Except RegistryError RegistryAnswer) (provider : Provider)
    (schema : Json) : Prop :=
  ∃ answer detail, registry provider = .ok answer ∧ answer.isSuccess = true ∧
    answer.detail = some detail ∧ detail.target = schema

theorem Resolves.unique {registry : Provider → Except RegistryError RegistryAnswer}
    {provider : Provider} {schema schema' : Json} (h : Resolves registry provider schema)
    (h' : Resolves registry provider schema') : schema = schema' := by
  obtain ⟨answer, detail, ha, -, hd, rfl⟩ := h
  obtain ⟨answer', detail', ha', -, hd', rfl⟩ := h'
  rw [ha] at ha'
  cases ha'
  rw [hd] at hd'
  cases hd'
  rfl

open Service

variable {allowed : Moment → Prop} {s : MemoryStore} {past : Past} {provider : Provider}
  {schema : Json}

namespace Compatibility

theorem targetSchema_found
    (h : ∀ m, allowed m → Resolves m.surroundings.registry provider schema) :
    (targetSchema provider).Gives allowed (.ok schema) s s past := by
  rw [targetSchema, Gives, attains_bind]
  refine attains_lookup fun m hm => ?_
  obtain ⟨answer, detail, ha, hs, hd, rfl⟩ := h m hm
  simp only [ha, hd, hs, if_true]
  exact ⟨rfl, rfl⟩

theorem targetSchema_fails
    (h : ∀ m, allowed m → ∀ schema, ¬ Resolves m.surroundings.registry provider schema) :
    (targetSchema provider).Attains allowed (fun _ _ _ => False)
      (fun s' _ e => s' = s ∧ ∃ detail, e = .registryFailed detail) s past := by
  rw [targetSchema, attains_bind]
  refine attains_lookup fun m hm => ?_
  cases ha : m.surroundings.registry provider with
  | error e => exact ⟨rfl, _, rfl⟩
  | ok answer =>
    dsimp only
    split
    · rename_i detail hd
      split
      · rename_i hs
        exact absurd ⟨answer, detail, ha, hs, hd, rfl⟩ (h m hm detail.target)
      · exact ⟨rfl, _, rfl⟩
    · exact ⟨rfl, _, rfl⟩

end Compatibility

namespace Bindings

variable {group : TargetGroup}

theorem getTargetGroup_found {id : String} (h : s.targetGroups[id]? = some group) :
    (getTargetGroup id).Gives allowed (.ok group) s s past := by
  rw [getTargetGroup]
  refine Gives.bind (gives_store (x := some group) ?_) fun _ => gives_orNotFound
  rw [MemoryStore.perform, h]

theorem getTargetGroup_missing {id : String} (h : s.targetGroups[id]? = none) :
    (getTargetGroup id).Gives allowed (.error (.notFound (groupName id))) s s past := by
  rw [getTargetGroup]
  refine Gives.bind (gives_store (x := none) ?_) fun _ => gives_notFound
  rw [MemoryStore.perform, h]

theorem ensureCompatible_passes
    (h : ∀ m, allowed m → Resolves m.surroundings.registry provider schema)
    (heq : schema.Equivalent group.targetSchema.schema) :
    (ensureCompatible group provider).Gives allowed (.ok ()) s s past := by
  rw [ensureCompatible]
  refine (Compatibility.targetSchema_found h).bind fun _ => ?_
  rw [if_pos heq]
  exact gives_pure

theorem ensureCompatible_refuses
    (h : ∀ m, allowed m → Resolves m.surroundings.registry provider schema)
    (hne : ¬ schema.Equivalent group.targetSchema.schema) :
    (ensureCompatible group provider).Gives allowed
      (.error (.incompatibleSchema group.id provider.render)) s s past := by
  rw [ensureCompatible]
  refine (Compatibility.targetSchema_found h).bind fun _ => ?_
  rw [if_neg hne]
  exact gives_throw

end Bindings

end AccessGrants
