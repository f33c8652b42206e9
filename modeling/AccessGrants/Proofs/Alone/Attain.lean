import AccessGrants.Proofs.Alone.Session
import AccessGrants.Proofs.Concurrency.Handlers

/-!
# AccessGrants.Proofs.Alone.Attain

What an operation that runs by itself comes to. `Ensures` speaks of the runs that come to their end;
here every run does, so an outcome that is attained is the outcome.

* `Interaction.Attains` — every run comes to its end, and what holds there.
* `attains_finish`      — the run of a session does.
* `Attains.finish`      — the answer of an operation that is run in a session.
* `Service.EndsWith`    — the outcome of an operation that reads the clock.
* `attains_bind`        — the rule of composition; the other lemmas are one for each way to build a
                          service operation.
* `locally_bind` and so on — what an operation is made of, with the collaborators that need nothing
                          but the resources.
-/

namespace AccessGrants

namespace Interaction

/-- When its calls are made at allowed moments, the program comes to its end with `post`. -/
def Attains (allowed : Moment → Prop) (post : MemoryStore → Past → α → Prop) :
    MemoryStore → Past → Proc α → Prop
  | s, past, done a => post s past a
  | s, past, step c next => ∀ m, allowed m →
    ∃ r s', s.answer m c = some (r, s') ∧ Attains allowed post s' (⟨c, some r⟩ :: past) (next r)
  | _, _, overflow => False

variable {allowed : Moment → Prop} {s : MemoryStore} {past : Past}

theorem attains_bind {p : Proc α} {f : α → Proc β} {post : MemoryStore → Past → β → Prop} :
    Attains allowed post s past (p >>= f) ↔
      Attains allowed (fun s past a => Attains allowed post s past (f a)) s past p := by
  induction p generalizing s past with
  | done a => exact Iff.rfl
  | step c next ih =>
    show (∀ m, _ → ∃ r s', _ ∧ _) ↔ ∀ m, _ → ∃ r s', _ ∧ _
    exact forall_congr' fun m => imp_congr_right fun _ => exists_congr fun r =>
      exists_congr fun s' => and_congr_right fun _ => ih r
  | overflow => exact Iff.rfl

theorem Attains.mono {p : Proc α} {post post' : MemoryStore → Past → α → Prop}
    (h : Attains allowed post s past p) (hp : ∀ s past a, post s past a → post' s past a) :
    Attains allowed post' s past p := by
  induction p generalizing s past with
  | done a => exact hp _ _ _ h
  | step c next ih =>
    intro m hm
    obtain ⟨r, s', hs, hr⟩ := h m hm
    exact ⟨r, s', hs, ih r hr⟩
  | overflow => exact h

/-- A run whose moments are all allowed comes to its end with `post`. -/
theorem attains_finish {post : MemoryStore → Past → α → Prop} {p : Proc α} {s : Session}
    (h : Attains allowed post s.store s.past p) {moments : Nat → Moment}
    (hm : ∀ n, allowed (moments n)) :
    ∃ a s', p.finish moments s = (some a, s') ∧ post s'.store s'.past a := by
  induction p generalizing moments s with
  | done a => exact ⟨a, s, rfl, h⟩
  | step c next ih =>
    obtain ⟨r, store, hs, hr⟩ := h (moments 0) (hm 0)
    rw [finish, hs]
    exact ih r (s := ⟨store, ⟨c, some r⟩ :: s.past⟩) hr fun n => hm (n + 1)
  | overflow => exact h.elim

end Interaction

namespace Service

section Attains

variable {allowed : Moment → Prop} {s : MemoryStore} {past : Past}
  {ok : MemoryStore → Past → α → Prop} {err : MemoryStore → Past → ServiceError → Prop}

/-- The operation returns with `ok`, or fails with `err`; it does one of them. -/
def Attains (allowed : Moment → Prop) (p : Service α) (ok : MemoryStore → Past → α → Prop)
    (err : MemoryStore → Past → ServiceError → Prop) (s : MemoryStore) (past : Past) : Prop :=
  Interaction.Attains allowed (fun s past r => r.casesOn (err s past) (ok s past)) s past p.run

@[simp] theorem attains_pure {a : α} : Attains allowed (pure a) ok err s past ↔ ok s past a := Iff.rfl

@[simp] theorem attains_throw {e : ServiceError} :
    Attains allowed (throw e) ok err s past ↔ err s past e := Iff.rfl

@[simp] theorem attains_bind {p : Service β} {f : β → Service α} :
    Attains allowed (p >>= f) ok err s past ↔
      Attains allowed p (fun s past b => Attains allowed (f b) ok err s past) err s past := by
  show Interaction.Attains _ _ _ _ (p.run >>= _) ↔ _
  rw [Interaction.attains_bind]
  constructor
  · intro h
    refine h.mono fun s past r hr => ?_
    cases r <;> exact hr
  · intro h
    refine h.mono fun s past r hr => ?_
    cases r <;> exact hr

theorem Attains.mono {p : Service α} {ok' : MemoryStore → Past → α → Prop}
    {err' : MemoryStore → Past → ServiceError → Prop} (h : Attains allowed p ok err s past)
    (ho : ∀ s past a, ok s past a → ok' s past a) (he : ∀ s past e, err s past e → err' s past e) :
    Attains allowed p ok' err' s past := by
  refine Interaction.Attains.mono h fun s past r hr => ?_
  cases r with
  | ok a => exact ho s past a hr
  | error e => exact he s past e hr

/-- After a failure nothing else is done. -/
theorem Attains.bind_fails {p : Service β} {f : β → Service α}
    (h : Attains allowed p (fun _ _ _ => False) err s past) :
    Attains allowed (p >>= f) ok err s past := by
  rw [attains_bind]
  exact h.mono (fun _ _ _ => False.elim) fun _ _ _ => id

@[simp] theorem attains_orNotFound_some {what : String} {a : α} :
    Attains allowed (orNotFound what (some a)) ok err s past ↔ ok s past a := Iff.rfl

@[simp] theorem attains_orNotFound_none {what : String} :
    Attains allowed (orNotFound what none) ok err s past ↔ err s past (.notFound what) := Iff.rfl

theorem attains_now {ok : MemoryStore → Past → Instant → Prop}
    (h : ∀ m, allowed m → ok s (⟨.resource .now, some m.clock⟩ :: past) m.clock) :
    Attains allowed now ok err s past :=
  fun m hm => ⟨m.clock, s, rfl, h m hm⟩

theorem attains_freshId {ok : MemoryStore → Past → String → Prop}
    (h : ∀ id, ok s (⟨.resource .freshId, some id⟩ :: past) id) :
    Attains allowed freshId ok err s past :=
  fun m _ => ⟨m.surroundings.id, s, rfl, h _⟩

theorem attains_count {metric : Metric} {ok : MemoryStore → Past → Unit → Prop}
    (h : ok s (⟨.resource (.count metric), some ()⟩ :: past) ()) :
    Attains allowed (count metric) ok err s past :=
  fun _ _ => ⟨(), s, rfl, h⟩

theorem attains_emit {event : AccessEvent} {ok : MemoryStore → Past → Unit → Prop}
    (h : ∀ reply, ok s (⟨.resource (.emit event), some reply⟩ :: past) ()) :
    Attains allowed (emit event) ok err s past :=
  fun m _ => ⟨m.surroundings.events event, s, rfl, h _⟩

theorem attains_lookup {provider : Provider}
    {ok : MemoryStore → Past → Except RegistryError RegistryAnswer → Prop}
    (h : ∀ m, allowed m → ok s
      (⟨.resource (.lookup provider), some (m.surroundings.registry provider)⟩ :: past)
      (m.surroundings.registry provider)) :
    Attains allowed (ask (.lookup provider)) ok err s past :=
  fun m hm => ⟨m.surroundings.registry provider, s, rfl, h m hm⟩

theorem attains_ask_store {c : StoreCall} {ok : MemoryStore → Past → c.Reply → Prop}
    (h : ok (s.perform c).2 (⟨.resource (.store c), some (s.perform c).1⟩ :: past)
      (s.perform c).1) :
    Attains (α := no_index c.Reply) allowed (ask (.store c)) ok err s past :=
  fun _ _ => ⟨_, _, rfl, h⟩

/-- A call of the store that succeeds. -/
theorem attains_store {c : StoreCall} {ok : MemoryStore → Past → c.Value → Prop} {a : c.Value}
    (ha : (s.perform c).1 = .ok a)
    (h : ok (s.perform c).2 (⟨.resource (.store c), some (.ok a)⟩ :: past) a) :
    Attains (α := no_index c.Value) allowed (store c) ok err s past := by
  rw [store, attains_bind]
  refine attains_ask_store ?_
  rw [ha]
  exact h

theorem attains_store_cases {c : StoreCall} {ok : MemoryStore → Past → c.Value → Prop}
    (ho : ∀ x, (s.perform c).1 = .ok x →
      ok (s.perform c).2 (⟨.resource (.store c), some (.ok x)⟩ :: past) x)
    (he : ∀ e, (s.perform c).1 = .error e →
      err (s.perform c).2 (⟨.resource (.store c), some (.error e)⟩ :: past) (.store e)) :
    Attains (α := no_index c.Value) allowed (store c) ok err s past := by
  rw [store, attains_bind]
  refine attains_ask_store ?_
  cases hc : (s.perform c).1 with
  | ok x => exact ho x hc
  | error e => exact he e hc

/-- The answer of a run whose moments are all allowed. -/
theorem Attains.finish {p : Service α} {s : Session} {moments : Nat → Moment}
    (post : MemoryStore → Past → Except ServiceError α → Prop)
    (h : p.Attains allowed (fun s past x => post s past (.ok x))
      (fun s past e => post s past (.error e)) s.store s.past)
    (hm : ∀ n, allowed (moments n)) :
    ∃ answer s', p.run.finish moments s = (some answer, s') ∧ post s'.store s'.past answer := by
  obtain ⟨answer, s', hrun, hend⟩ := Interaction.attains_finish h hm
  refine ⟨answer, s', hrun, ?_⟩
  cases answer with
  | ok x => exact hend
  | error e => exact hend

/-- The operation ends with an outcome that goes by the clock at one of the allowed moments. -/
def EndsWith (allowed : Moment → Prop)
    (outcome : Instant → MemoryStore → Past → Except ServiceError α → Prop) (p : Service α) :
    MemoryStore → Past → Prop :=
  p.Attains allowed (fun s past x => ∃ m, allowed m ∧ outcome m.clock s past (.ok x))
    fun s past e => ∃ m, allowed m ∧ outcome m.clock s past (.error e)

theorem EndsWith.finish {outcome : Instant → MemoryStore → Past → Except ServiceError α → Prop}
    {p : Service α} {s : Session} {moments : Nat → Moment}
    (h : p.EndsWith (fun m => ∃ n, m = moments n) outcome s.store s.past) :
    ∃ answer s', p.run.finish moments s = (some answer, s') ∧
      ∃ n, outcome (moments n).clock s'.store s'.past answer := by
  obtain ⟨answer, s', hrun, _, ⟨n, rfl⟩, hend⟩ := Attains.finish
    (fun s past answer => ∃ m, (∃ n, m = moments n) ∧ outcome m.clock s past answer) h fun n => ⟨n, rfl⟩
  exact ⟨answer, s', hrun, n, hend⟩

end Attains

/-! ## The services with the collaborators that need nothing but the resources -/

section Locally

variable {a : GroupAuthorizer}

@[simp] theorem locally_pure {x : α} : (pure x : Service α).locally a = pure x := rfl

@[simp] theorem locally_throw {e : ServiceError} : (throw e : Service α).locally a = throw e := rfl

@[simp] theorem locally_bind {p : Service α} {f : α → Service β} :
    (p >>= f).locally a = p.locally a >>= fun x => (f x).locally a :=
  via_bind

@[simp] theorem locally_store {c : StoreCall} :
    locally (α := no_index c.Value) a (store c) = store c :=
  via_store (locally_keeps a)

@[simp] theorem locally_now : now.locally a = now :=
  via_now (locally_keeps a)

@[simp] theorem locally_freshId : freshId.locally a = freshId :=
  via_freshId (locally_keeps a)

@[simp] theorem locally_count {metric : Metric} : (count metric).locally a = count metric :=
  via_count (locally_keeps a)

@[simp] theorem locally_emit {event : AccessEvent} : (emit event).locally a = emit event :=
  via_emit (locally_keeps a)

@[simp] theorem locally_orNotFound {what : String} {x : Option α} :
    (orNotFound what x).locally a = orNotFound what x :=
  via_orNotFound

@[simp] theorem verdict_ok {b : Bool} : verdict (.ok b) = pure b := rfl

@[simp] theorem locally_verdict {answer : Except String Bool} :
    (verdict answer).locally a = verdict answer :=
  via_verdict

theorem locally_call {c : Call} :
    locally (α := no_index c.Reply) a (call c) = ofResources (c.locally a) :=
  via_call

@[simp] theorem locally_isAdmin {user : User} :
    locally (α := no_index (Call.Reply (.isAdmin user))) a (call (.isAdmin user)) =
      pure (.ok (a.isAdmin user)) :=
  locally_call

@[simp] theorem locally_isReviewer {user : User} {r : AccessRequest} :
    locally (α := no_index (Call.Reply (.isReviewer user r))) a (call (.isReviewer user r)) =
      pure (.ok (r.hasReviewer user)) :=
  locally_call

@[simp] theorem locally_revoke {r : AccessRequest} {actorId email : String} :
    locally (α := no_index (Call.Reply (.revoke r actorId email))) a (call (.revoke r actorId email)) =
      pure (LocalWorkflow.revoke r actorId) :=
  locally_call

@[simp] theorem locally_ite {c : Prop} [Decidable c] {p q : Service α} :
    (if c then p else q).locally a = if c then p.locally a else q.locally a :=
  apply_ite _ c p q

end Locally

end Service

end AccessGrants
