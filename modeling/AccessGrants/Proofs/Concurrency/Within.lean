import AccessGrants.Proofs.Concurrency.History

/-!
# AccessGrants.Proofs.Concurrency.Within

Operations that keep to calls of some kind, whatever they are answered.

* `Service.Within` — every call is of the kind, and nothing overflows.
* `Within.bind`    — the rule of composition; the other lemmas are one for each way to build a
                     service operation.
-/

namespace AccessGrants.Service

variable {kind kind' : Call → Bool}

def Within (kind : Call → Bool) (p : Service α) : Prop :=
  ∀ past, p.Obeys (fun _ c => kind c) (fun _ _ => True) (fun _ _ => True) past

theorem Within.mono {p : Service α} (h : p.Within kind) (hk : ∀ c, kind c = true → kind' c = true) :
    p.Within kind' :=
  fun past => Interaction.Obeys.mono (h past) (fun _ => hk) fun _ _ hr => hr

theorem Within.bind {p : Service α} {f : α → Service β} (hp : p.Within kind)
    (hf : ∀ a, (f a).Within kind) : (p >>= f).Within kind := by
  intro past
  rw [obeys_bind]
  exact (hp past).mono (fun past' a _ => hf a past') fun _ _ _ => trivial

theorem within_pure (a : α) : Within kind (pure a) := fun _ => trivial

theorem within_throw (e : ServiceError) : Within kind (throw e : Service α) := fun _ => trivial

theorem within_call {c : Call} (h : kind c = true) : Within kind (call c) :=
  fun _ => ⟨h, fun _ => trivial⟩

theorem within_ask {r : Resource} (h : kind (.resource r) = true) : Within kind (ask r) :=
  within_call h

theorem within_store {c : StoreCall} (h : kind (.resource (.store c)) = true) :
    Within kind (store c) :=
  fun _ => obeys_store.mpr ⟨h, fun _ => trivial, fun _ => trivial⟩

theorem within_orNotFound (what : String) (found : Option α) : Within kind (orNotFound what found) := by
  cases found with
  | none => exact within_throw _
  | some a => exact within_pure a

theorem within_verdict (answer : Except String Bool) : Within kind (verdict answer) := by
  cases answer with
  | ok b => exact within_pure b
  | error detail => exact within_throw _

end AccessGrants.Service
