import AccessGrants.Proofs.Alone.Attain

/-!
# AccessGrants.Proofs.Alone.Determined

Operations whose answer depends on the store and on nothing else that may differ from call to call.

* `Service.Gives`   — every run comes to the same answer and leaves the same store.
* `Gives.bind`      — the rule of composition; the other lemmas are one for each way to build a service
                      operation.
* `Service.Returns` — the run at some moments does.
-/

namespace AccessGrants
namespace Service

variable {allowed : Moment → Prop} {p : Service α} {f : α → Service β} {a : α} {e : ServiceError}
  {answer : Except ServiceError β} {s s₁ stored : MemoryStore} {past : Past}

/-- When its calls are made at allowed moments, the operation ends with this answer and leaves this
store. -/
def Gives (allowed : Moment → Prop) (p : Service α) (answer : Except ServiceError α)
    (stored : MemoryStore) (s : MemoryStore) (past : Past) : Prop :=
  p.Attains allowed (fun s' _ x => answer = .ok x ∧ s' = stored)
    (fun s' _ e => answer = .error e ∧ s' = stored) s past

theorem gives_pure : (pure a : Service α).Gives allowed (.ok a) s s past := ⟨rfl, rfl⟩

theorem gives_throw : (throw e : Service α).Gives allowed (.error e) s s past := ⟨rfl, rfl⟩

/-- What follows a determined operation may still come to one thing or another. -/
theorem Gives.attains_bind {ok : MemoryStore → Past → β → Prop}
    {err : MemoryStore → Past → ServiceError → Prop} (h : p.Gives allowed (.ok a) s₁ s past)
    (hf : ∀ past, (f a).Attains allowed ok err s₁ past) :
    (p >>= f).Attains allowed ok err s past := by
  rw [Service.attains_bind]
  refine Attains.mono h (fun s' past' x hx => ?_) fun s' past' e he => ?_
  · obtain ⟨heq, rfl⟩ := hx
    cases heq
    exact hf past'
  · cases he.1

theorem Gives.bind (h : p.Gives allowed (.ok a) s₁ s past)
    (hf : ∀ past, (f a).Gives allowed answer stored s₁ past) :
    (p >>= f).Gives allowed answer stored s past :=
  h.attains_bind hf

theorem Gives.bind_error (h : p.Gives allowed (.error e) stored s past) :
    (p >>= f).Gives allowed (.error e) stored s past := by
  rw [Gives, Service.attains_bind]
  refine Attains.mono h (fun s' past' x hx => ?_) fun s' past' e' he => ?_
  · cases hx.1
  · obtain ⟨heq, rfl⟩ := he
    cases heq
    exact ⟨rfl, rfl⟩

theorem gives_ask {c : StoreCall} {reply : c.Reply} (h : s.perform c = (reply, s₁)) :
    Gives (α := no_index c.Reply) allowed (ask (.store c)) (.ok reply) s₁ s past := by
  refine attains_ask_store ?_
  rw [h]
  exact ⟨rfl, rfl⟩

theorem gives_store {c : StoreCall} {x : c.Value} (h : s.perform c = (.ok x, s₁)) :
    Gives (α := no_index c.Value) allowed (store c) (.ok x) s₁ s past :=
  (gives_ask h).bind fun _ => gives_pure

theorem gives_orNotFound {what : String} {x : α} :
    (orNotFound what (some x)).Gives allowed (.ok x) s s past := gives_pure

theorem gives_notFound {what : String} :
    (orNotFound what (none : Option α)).Gives allowed (.error (.notFound what)) s s past := gives_throw

/-- Run at these moments, the operation ends with this answer and leaves this store. -/
def Returns (p : Service α) (moments : Nat → Moment) (s : Session) (answer : Except ServiceError α)
    (stored : MemoryStore) : Prop :=
  ∃ past, p.run.finish moments s = (some answer, ⟨stored, past⟩)

theorem Returns.unique {answer answer' : Except ServiceError α} {stored stored' : MemoryStore}
    {moments : Nat → Moment} {s : Session} (h : p.Returns moments s answer stored)
    (h' : p.Returns moments s answer' stored') : answer = answer' ∧ stored = stored' := by
  obtain ⟨past, hrun⟩ := h
  obtain ⟨past', hrun'⟩ := h'
  rw [hrun] at hrun'
  cases hrun'
  exact ⟨rfl, rfl⟩

theorem Gives.returns {answer : Except ServiceError α} {s : Session} {moments : Nat → Moment}
    (h : p.Gives allowed answer stored s.store s.past) (hm : ∀ n, allowed (moments n)) :
    p.Returns moments s answer stored := by
  obtain ⟨answer', s', hrun, heq, rfl⟩ := Attains.finish
    (fun s' _ answer' => answer = answer' ∧ s' = stored) h hm
  exact ⟨s'.past, by rw [hrun, heq]⟩

end Service
end AccessGrants
