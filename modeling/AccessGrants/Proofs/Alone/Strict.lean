import AccessGrants.Proofs.Alone.Attain

/-!
# AccessGrants.Proofs.Alone.Strict

Operations whose arithmetic may overflow. `Service.locally` reads an overflow of the workflow as an
error of the operation; here it stays what it is, the end of the program without an answer.

* `Service.strictly`   — the program over the resources alone, as an operation.
* `strictly_run`       — it is this program, call by call.
* `Interaction.Runs`   — every run comes to its end or overflows, and what holds there in either case.
* `runs_finish`        — the run of a session does.
* `runs_bind`          — the rule of composition. A part that does not overflow has its rules from
                         `Attains`.
* `strictly_bind` and so on — a strict operation is strict part by part.
-/

namespace AccessGrants

namespace Interaction

/-- Calls are carried out by programs part by part. -/
theorem interpret_bind {C D : Type} {Reply : C → Type} {Reply' : D → Type}
    (handle : (c : C) → Interaction Reply' (Reply c)) (p : Interaction Reply α)
    (f : α → Interaction Reply β) :
    (p >>= f).interpret handle .overflow =
      p.interpret handle .overflow >>= fun a => (f a).interpret handle .overflow := by
  induction p with
  | done a => rfl
  | step c next ih =>
    show (handle c >>= fun r => (next r >>= f).interpret handle .overflow) =
      (handle c >>= fun r => (next r).interpret handle .overflow) >>= _
    rw [LawfulMonad.bind_assoc, funext ih]
  | overflow => rfl

end Interaction

/-- A program over the resources as one that may also ask collaborators. -/
def Proc.ofResources (p : ResourceProc α) : Proc α :=
  p.interpret Proc.ask .overflow

namespace Service

/-- A program over the resources as a part of an operation. It may overflow. -/
def part (p : ResourceProc α) : Service α :=
  ExceptT.lift (Proc.ofResources p)

/-- The operation with the collaborators that need nothing but the resources. It may overflow. -/
def strictly (a : GroupAuthorizer) (p : Service α) : Service α :=
  ExceptT.mk (p.run.interpret (fun c => Proc.ofResources (c.locally a)) .overflow)

theorem strictly_run (a : GroupAuthorizer) (p : Service α) :
    (p.strictly a).run = Proc.ofResources (Proc.locally a p.run) := by
  have tree : ∀ q : Proc (Except ServiceError α),
      q.interpret (fun c => Proc.ofResources (c.locally a)) .overflow =
        Proc.ofResources (Proc.locally a q) := by
    intro q
    induction q with
    | done x => rfl
    | step c next ih =>
      show _ = Proc.ofResources (c.locally a >>= fun r => Proc.locally a (next r))
      rw [Proc.ofResources, Interaction.interpret_bind]
      exact congrArg _ (funext ih)
    | overflow => rfl
  exact tree p.run

/-! ## Parts -/

section Part

@[simp] theorem part_pure {x : α} : part (pure x) = pure x := rfl

@[simp] theorem part_call {r : Resource} :
    part (α := no_index r.Reply) (Interaction.call r) = ask r := rfl

@[simp] theorem part_bind {p : ResourceProc α} {f : α → ResourceProc β} :
    part (p >>= f) = part p >>= fun x => part (f x) := by
  rw [part, Proc.ofResources, Interaction.interpret_bind]
  exact ExceptT.lift_bind _ _

variable {a : GroupAuthorizer}

@[simp] theorem strictly_pure {x : α} : (pure x : Service α).strictly a = pure x := rfl

@[simp] theorem strictly_throw {e : ServiceError} :
    (throw e : Service α).strictly a = throw e := rfl

@[simp] theorem strictly_bind {p : Service α} {f : α → Service β} :
    (p >>= f).strictly a = p.strictly a >>= fun x => (f x).strictly a := by
  show ExceptT.mk ((p.run >>= _).interpret _ _) = ExceptT.mk (_ >>= _)
  rw [Interaction.interpret_bind]
  refine congrArg ExceptT.mk (congrArg _ (funext fun x => ?_))
  cases x <;> rfl

theorem strictly_call {c : Call} :
    strictly (α := no_index c.Reply) a (call c) = part (c.locally a) := by
  show ExceptT.mk (Proc.ofResources (c.locally a) >>= _) = _
  exact congrArg ExceptT.mk rfl

@[simp] theorem strictly_ask {r : Resource} :
    strictly (α := no_index r.Reply) a (ask r) = ask r :=
  strictly_call

@[simp] theorem strictly_store {c : StoreCall} :
    strictly (α := no_index c.Value) a (store c) = store c := by
  rw [store, strictly_bind, strictly_ask]
  congr
  funext reply
  cases reply <;> rfl

@[simp] theorem strictly_now : now.strictly a = now := strictly_ask

@[simp] theorem strictly_freshId : freshId.strictly a = freshId := strictly_ask

@[simp] theorem strictly_count {metric : Metric} : (count metric).strictly a = count metric :=
  strictly_ask

@[simp] theorem strictly_emit {event : AccessEvent} : (emit event).strictly a = emit event := by
  rw [emit, strictly_bind, strictly_ask]
  rfl

@[simp] theorem strictly_orNotFound {what : String} {found : Option α} :
    (orNotFound what found).strictly a = orNotFound what found := by
  cases found <;> rfl

end Part

end Service

/-! ## What a run comes to -/

namespace Interaction

variable {allowed : Moment → Prop} {s : MemoryStore} {past : Past} {broken : MemoryStore → Prop}

/-- When its calls are made at allowed moments, the program comes to its end with `post`, or overflows
and leaves a store that is `broken`. -/
def Runs (allowed : Moment → Prop) (post : MemoryStore → Past → α → Prop)
    (broken : MemoryStore → Prop) : MemoryStore → Past → Proc α → Prop
  | s, past, done a => post s past a
  | s, past, step c next => ∀ m, allowed m →
    ∃ r s', s.answer m c = some (r, s') ∧ Runs allowed post broken s' (⟨c, some r⟩ :: past) (next r)
  | s, _, overflow => broken s

theorem runs_bind {p : Proc α} {f : α → Proc β} {post : MemoryStore → Past → β → Prop} :
    Runs allowed post broken s past (p >>= f) ↔
      Runs allowed (fun s past a => Runs allowed post broken s past (f a)) broken s past p := by
  induction p generalizing s past with
  | done a => exact Iff.rfl
  | step c next ih =>
    show (∀ m, _ → ∃ r s', _ ∧ _) ↔ ∀ m, _ → ∃ r s', _ ∧ _
    exact forall_congr' fun m => imp_congr_right fun _ => exists_congr fun r =>
      exists_congr fun s' => and_congr_right fun _ => ih r
  | overflow => exact Iff.rfl

theorem Runs.mono {p : Proc α} {post post' : MemoryStore → Past → α → Prop}
    {broken' : MemoryStore → Prop} (h : Runs allowed post broken s past p)
    (hp : ∀ s past a, post s past a → post' s past a) (hb : ∀ s, broken s → broken' s) :
    Runs allowed post' broken' s past p := by
  induction p generalizing s past with
  | done a => exact hp _ _ _ h
  | step c next ih =>
    intro m hm
    obtain ⟨r, s', hs, hr⟩ := h m hm
    exact ⟨r, s', hs, ih r hr⟩
  | overflow => exact hb _ h

/-- A program that always comes to its end does not overflow. -/
theorem Attains.runs {p : Proc α} {post : MemoryStore → Past → α → Prop}
    (h : Attains allowed post s past p) : Runs allowed post broken s past p := by
  induction p generalizing s past with
  | done a => exact h
  | step c next ih =>
    intro m hm
    obtain ⟨r, s', hs, hr⟩ := h m hm
    exact ⟨r, s', hs, ih r hr⟩
  | overflow => exact h.elim

/-- A run whose moments are all allowed comes to its end with `post`, or overflows. -/
theorem runs_finish {post : MemoryStore → Past → α → Prop} {p : Proc α} {s : Session}
    (h : Runs allowed post broken s.store s.past p) {moments : Nat → Moment}
    (hm : ∀ n, allowed (moments n)) :
    (∃ a s', p.finish moments s = (some a, s') ∧ post s'.store s'.past a) ∨
      ∃ s', p.finish moments s = (none, s') ∧ broken s'.store := by
  induction p generalizing moments s with
  | done a => exact .inl ⟨a, s, rfl, h⟩
  | step c next ih =>
    obtain ⟨r, store, hs, hr⟩ := h (moments 0) (hm 0)
    rw [finish, hs]
    exact ih r (s := ⟨store, ⟨c, some r⟩ :: s.past⟩) hr fun n => hm (n + 1)
  | overflow => exact .inr ⟨s, rfl, h⟩

end Interaction

namespace Service

variable {allowed : Moment → Prop} {s : MemoryStore} {past : Past}
  {ok : MemoryStore → Past → α → Prop} {err : MemoryStore → Past → ServiceError → Prop}
  {broken : MemoryStore → Prop}

/-- The operation returns with `ok`, fails with `err`, or overflows and leaves what is `broken`. -/
def Runs (allowed : Moment → Prop) (p : Service α) (ok : MemoryStore → Past → α → Prop)
    (err : MemoryStore → Past → ServiceError → Prop) (broken : MemoryStore → Prop) (s : MemoryStore)
    (past : Past) : Prop :=
  Interaction.Runs allowed (fun s past r => r.casesOn (err s past) (ok s past)) broken s past p.run

theorem runs_bind {p : Service β} {f : β → Service α} :
    Runs allowed (p >>= f) ok err broken s past ↔
      Runs allowed p (fun s past b => Runs allowed (f b) ok err broken s past) err broken s past := by
  show Interaction.Runs _ _ _ _ _ (p.run >>= _) ↔ _
  rw [Interaction.runs_bind]
  constructor
  · intro h
    refine h.mono (fun s past r hr => ?_) fun _ hb => hb
    cases r <;> exact hr
  · intro h
    refine h.mono (fun s past r hr => ?_) fun _ hb => hb
    cases r <;> exact hr

theorem Runs.mono {p : Service α} {ok' : MemoryStore → Past → α → Prop}
    {err' : MemoryStore → Past → ServiceError → Prop} {broken' : MemoryStore → Prop}
    (h : Runs allowed p ok err broken s past) (ho : ∀ s past x, ok s past x → ok' s past x)
    (he : ∀ s past e, err s past e → err' s past e) (hb : ∀ s, broken s → broken' s) :
    Runs allowed p ok' err' broken' s past := by
  refine Interaction.Runs.mono h (fun s past r hr => ?_) hb
  cases r with
  | ok x => exact ho s past x hr
  | error e => exact he s past e hr

/-- A part that does not overflow, and what comes after it. -/
theorem Attains.runs_bind {p : Service β} {f : β → Service α}
    (h : p.Attains allowed (fun s past b => Runs allowed (f b) ok err broken s past) err s past) :
    Runs allowed (p >>= f) ok err broken s past :=
  Service.runs_bind.mpr (Interaction.Attains.runs h)

end Service

end AccessGrants
