import AccessGrants.Proofs.Concurrency.History
import AccessGrants.Proofs.Concurrency.World

/-!
# AccessGrants.Proofs.Alone.Run

An operation that runs with no other beside it. Its calls of the store are answered by the store as
the operation itself has left it; all others may be answered differently every time.

* `Moment`              — what the answer of a call depends on besides the store.
* `Interaction.alone`   — such a run, call by call.
* `Interaction.Ensures` — what holds at the end of every such run.
* `ensures_of_alone`    — the one describes the other.
* `ensures_bind`        — the rule of composition; the other lemmas are one for each way to build a
                          service operation.
-/

namespace AccessGrants

structure Moment where
  surroundings : Surroundings
  clock : Instant

namespace MemoryStore

/-- The reply of a call that is made at a moment, and the store after it. A new id may be any. -/
def answer (m : Moment) (s : MemoryStore) (c : Call) : Option (c.Reply × MemoryStore) :=
  ((World.mk s m.clock []).perform m.surroundings c).map fun (r, w) => (r, w.store)

@[simp] theorem answer_store {m : Moment} {s : MemoryStore} {c : StoreCall} :
    s.answer m (.resource (.store c)) = some (s.perform c) := rfl

/-- Only calls of the store change it. -/
theorem answer_of_not_store {m : Moment} {s s' : MemoryStore} {c : Call} {r : c.Reply}
    (h : s.answer m c = some (r, s')) (hc : ∀ c', c ≠ .resource (.store c')) : s' = s := by
  obtain ⟨⟨r', w⟩, hw, heq⟩ := Option.map_eq_some_iff.mp h
  cases heq
  rcases World.perform_store hw with ⟨c', rfl⟩ | ⟨hs, -⟩
  · exact absurd rfl (hc c')
  · exact hs

end MemoryStore

namespace Interaction

/-- The n-th call is made at the n-th moment. There is no end where the program overflows, where a
call never returns, and where the moments run out. -/
def alone : List Moment → MemoryStore → Past → Proc α → Option (α × MemoryStore × Past)
  | _, s, past, done a => some (a, s, past)
  | m :: ms, s, past, step c next =>
    match s.answer m c with
    | some (r, s') => alone ms s' (⟨c, some r⟩ :: past) (next r)
    | none => none
  | [], _, _, step _ _ => none
  | _, _, _, overflow => none

/-- Whatever the moments are, a run that ends does so with `post`. -/
def Ensures (post : MemoryStore → Past → α → Prop) : MemoryStore → Past → Proc α → Prop
  | s, past, done a => post s past a
  | s, past, step c next =>
    ∀ m r s', s.answer m c = some (r, s') → Ensures post s' (⟨c, some r⟩ :: past) (next r)
  | _, _, overflow => True

variable {s s' : MemoryStore} {past past' : Past}

theorem ensures_of_alone {post : MemoryStore → Past → α → Prop} {p : Proc α}
    (h : Ensures post s past p) {ms : List Moment} {a : α}
    (hrun : p.alone ms s past = some (a, s', past')) : post s' past' a := by
  induction p generalizing ms s past with
  | done b =>
    rw [alone, Option.some.injEq] at hrun
    cases hrun
    exact h
  | step c next ih =>
    cases ms with
    | nil =>
      rw [alone] at hrun
      cases hrun
    | cons m ms =>
      rw [alone] at hrun
      split at hrun
      · rename_i r s₁ hs
        exact ih r (h m r s₁ hs) hrun
      · cases hrun
  | overflow =>
    rw [alone] at hrun
    cases hrun

theorem ensures_bind {p : Proc α} {f : α → Proc β} {post : MemoryStore → Past → β → Prop} :
    Ensures post s past (p >>= f) ↔
      Ensures (fun s past a => Ensures post s past (f a)) s past p := by
  induction p generalizing s past with
  | done a => exact Iff.rfl
  | step c next ih =>
    show (∀ m r s', _ → _) ↔ ∀ m r s', _ → _
    exact forall_congr' fun m => forall_congr' fun r => forall_congr' fun s' =>
      imp_congr_right fun _ => ih r
  | overflow => exact Iff.rfl

theorem Ensures.mono {p : Proc α} {post post' : MemoryStore → Past → α → Prop}
    (h : Ensures post s past p) (hp : ∀ s past a, post s past a → post' s past a) :
    Ensures post' s past p := by
  induction p generalizing s past with
  | done a => exact hp _ _ _ h
  | step c next ih => exact fun m r s' hs => ih r (h m r s' hs)
  | overflow => trivial

end Interaction

namespace Service

variable {s : MemoryStore} {past : Past} {ok : MemoryStore → Past → α → Prop}
  {err : MemoryStore → Past → ServiceError → Prop}

/-- A run that returns does so with `ok`, and one that fails with `err`. -/
def Ensures (p : Service α) (ok : MemoryStore → Past → α → Prop)
    (err : MemoryStore → Past → ServiceError → Prop) (s : MemoryStore) (past : Past) : Prop :=
  Interaction.Ensures (fun s past r => r.casesOn (err s past) (ok s past)) s past p.run

@[simp] theorem ensures_pure {a : α} : Ensures (pure a) ok err s past ↔ ok s past a := Iff.rfl

@[simp] theorem ensures_throw {e : ServiceError} :
    Ensures (throw e) ok err s past ↔ err s past e := Iff.rfl

@[simp] theorem ensures_bind {p : Service β} {f : β → Service α} :
    Ensures (p >>= f) ok err s past ↔
      Ensures p (fun s past b => Ensures (f b) ok err s past) err s past := by
  show Interaction.Ensures _ _ _ (p.run >>= _) ↔ _
  rw [Interaction.ensures_bind]
  constructor
  · intro h
    refine h.mono fun s past r hr => ?_
    cases r <;> exact hr
  · intro h
    refine h.mono fun s past r hr => ?_
    cases r <;> exact hr

/-- A call of a collaborator leaves the store alone. -/
theorem ensures_call_of_not_store {c : Call} (hc : ∀ c', c ≠ .resource (.store c'))
    {ok : MemoryStore → Past → c.Reply → Prop} (h : ∀ r, ok s (⟨c, some r⟩ :: past) r) :
    Ensures (α := no_index c.Reply) (call c) ok err s past := by
  intro m r s' hs
  rw [MemoryStore.answer_of_not_store hs hc]
  exact h r

theorem ensures_now {ok : MemoryStore → Past → Instant → Prop}
    (h : ∀ t, ok s (⟨.resource .now, some t⟩ :: past) t) : Ensures now ok err s past :=
  ensures_call_of_not_store (c := .resource .now) (fun _ => nofun) h

theorem ensures_freshId {ok : MemoryStore → Past → String → Prop}
    (h : ∀ id, ok s (⟨.resource .freshId, some id⟩ :: past) id) : Ensures freshId ok err s past :=
  ensures_call_of_not_store (c := .resource .freshId) (fun _ => nofun) h

theorem ensures_count {metric : Metric} {ok : MemoryStore → Past → Unit → Prop}
    (h : ok s (⟨.resource (.count metric), some ()⟩ :: past) ()) :
    Ensures (count metric) ok err s past :=
  ensures_call_of_not_store (c := .resource (.count metric)) (fun _ => nofun) fun _ => h

theorem ensures_emit {event : AccessEvent} {ok : MemoryStore → Past → Unit → Prop}
    (h : ∀ reply, ok s (⟨.resource (.emit event), some reply⟩ :: past) ()) :
    Ensures (emit event) ok err s past :=
  ensures_bind.mpr (ensures_call_of_not_store (c := .resource (.emit event)) (fun _ => nofun) h)

/-- The store answers at every moment the same. -/
theorem ensures_ask_store {c : StoreCall} {ok : MemoryStore → Past → c.Reply → Prop}
    (h : ok (s.perform c).2 (⟨.resource (.store c), some (s.perform c).1⟩ :: past)
      (s.perform c).1) :
    Ensures (α := no_index c.Reply) (ask (.store c)) ok err s past := by
  intro m r s' hs
  cases hs
  exact h

theorem ensures_store {c : StoreCall} {ok : MemoryStore → Past → c.Value → Prop}
    (ho : ∀ a, (s.perform c).1 = .ok a →
      ok (s.perform c).2 (⟨.resource (.store c), some (.ok a)⟩ :: past) a)
    (he : ∀ e, (s.perform c).1 = .error e →
      err (s.perform c).2 (⟨.resource (.store c), some (.error e)⟩ :: past) (.store e)) :
    Ensures (α := no_index c.Value) (store c) ok err s past := by
  rw [store, ensures_bind]
  refine ensures_ask_store ?_
  cases hc : (s.perform c).1 with
  | ok a => exact ho a hc
  | error e => exact he e hc

@[simp] theorem ensures_orNotFound {what : String} {a : Option α} :
    Ensures (orNotFound what a) ok err s past ↔
      (∀ x, a = some x → ok s past x) ∧ (a = none → err s past (.notFound what)) := by
  cases a with
  | none => simp [orNotFound]
  | some x => simp [orNotFound]

theorem Ensures.mono {p : Service α} {ok' : MemoryStore → Past → α → Prop}
    {err' : MemoryStore → Past → ServiceError → Prop} (h : Ensures p ok err s past)
    (ho : ∀ s past a, ok s past a → ok' s past a) (he : ∀ s past e, err s past e → err' s past e) :
    Ensures p ok' err' s past := by
  refine Interaction.Ensures.mono h fun s past r hr => ?_
  cases r with
  | ok a => exact ho s past a hr
  | error e => exact he s past e hr

end Service
end AccessGrants
