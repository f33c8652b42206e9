import AccessGrants.Service.Proc
import AccessGrants.Store.Memory

/-!
# AccessGrants.Proofs.Concurrency.World

What operations that run side by side share: the store in memory, the clock, and the ids that were
handed out. Everything else that may be asked is up to the surroundings.

* `Surroundings`  — what everyone else answers, should they be asked now.
* `World.perform` — one call, whole; a call that never returns changes nothing.
* `perform_store` — only calls of the store change the store.
-/

namespace AccessGrants

/-- `id` is the next id that is offered. A workflow may also never return. -/
structure Surroundings where
  id : String
  registry : Provider → Except RegistryError RegistryAnswer
  options : String → String → Except String (Option ArgOptions)
  events : AccessEvent → Except String Unit
  grant : AccessGroup → Requester → Option (Except WorkflowError (List Grant))
  revoke : AccessRequest → String → String → Option (Except WorkflowError (List Grant))
  mayRequest : User → String → Except String Bool
  isAdmin : User → Except String Bool
  isReviewer : User → AccessRequest → Except String Bool

/-- No provider is known, no one has a role, no workflow returns, and every event arrives. -/
def Surroundings.plain : Surroundings where
  id := "id"
  registry _ := .error (.other "")
  options _ _ := .ok none
  events _ := .ok ()
  grant _ _ := none
  revoke _ _ _ := none
  mayRequest _ _ := .ok false
  isAdmin _ := .ok false
  isReviewer _ _ := .ok false

structure World where
  store : MemoryStore
  clock : Instant
  used : List String

namespace World

/-- Nothing is stored, and no id was handed out. -/
def fresh (pageSize : Nat) (clock : Instant) : World :=
  ⟨.empty pageSize, clock, []⟩

/-- The reply of a call and the world after it. An id is never handed out twice: a call that is
offered a used one does not return. -/
def perform (x : Surroundings) (w : World) : (c : Call) → Option (c.Reply × World)
  | .resource (.store c) => some ((w.store.perform c).1, { w with store := (w.store.perform c).2 })
  | .resource (.lookup p) => some (x.registry p, w)
  | .resource (.fetchOptions p a) => some (x.options p a, w)
  | .resource (.emit e) => some (x.events e, w)
  | .resource .now => some (w.clock, w)
  | .resource .freshId => if x.id ∈ w.used then none else some (x.id, { w with used := x.id :: w.used })
  | .resource (.count _) => some ((), w)
  | .grant g s => (x.grant g s).map (·, w)
  | .revoke r id email => (x.revoke r id email).map (·, w)
  | .mayRequest u t => some (x.mayRequest u t, w)
  | .isAdmin u => some (x.isAdmin u, w)
  | .isReviewer u r => some (x.isReviewer u r, w)

variable {x : Surroundings} {w w' : World} {c : Call} {r : c.Reply}

/-- Calls other than those of the store leave the store alone. -/
theorem perform_store (h : w.perform x c = some (r, w')) :
    (∃ s, c = .resource (.store s)) ∨
      w'.store = w.store ∧ ∀ s, c ≠ .resource (.store s) := by
  cases c with
  | resource c =>
    cases c with
    | store s => exact .inl ⟨s, rfl⟩
    | freshId =>
      simp only [perform] at h
      split at h
      · cases h
      · cases h
        exact .inr ⟨rfl, by simp⟩
    | _ => cases h; exact .inr ⟨rfl, by simp⟩
  | grant g s =>
    obtain ⟨_, _, h⟩ := Option.map_eq_some_iff.mp h
    cases h
    exact .inr ⟨rfl, by simp⟩
  | revoke q a e =>
    obtain ⟨_, _, h⟩ := Option.map_eq_some_iff.mp h
    cases h
    exact .inr ⟨rfl, by simp⟩
  | _ => cases h; exact .inr ⟨rfl, by simp⟩

end World
end AccessGrants
