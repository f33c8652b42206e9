import AccessGrants.Proofs.Concurrency.Pool

/-!
# AccessGrants.Proofs.Concurrency.Lasting

What the store has answered, and no call of it can undo, is true from then on, whoever was answered.

* `Trace.lasting` — for every kind of answers, given that it holds right after such an answer.
* `Returned`      — a task has come to its end with a result.
* `Keeps.returned` — the result fits what the task has done.
-/

namespace AccessGrants
namespace Pool

variable {S : Pool} {rule : S.Op → Past → Call → Prop} {w₀ w : World} {log : List S.Entry}

/-- `only` says that nothing but answers of the store tell something of the kind. -/
theorem Trace.lasting {kind : Exchange Call.Reply → Option α} {P : MemoryStore → α → Prop}
    (only : ∀ ex a, kind ex = some a → ∃ c r, ex = ⟨.resource (.store c), some r⟩)
    (stays : ∀ s a c, P s a → P (s.perform c).2 a)
    (holds : ∀ w log, Trace rule w₀ w log → ∀ c a,
      kind ⟨.resource (.store c), some (w.store.perform c).1⟩ = some a → P (w.store.perform c).2 a)
    (h : Trace rule w₀ w log) {i : Nat} {a : α} (ha : a ∈ told kind (past log i)) :
    P w.store a := by
  induction h with
  | init => cases ha
  | clock t _ ih => exact ih ha
  | answered ht _ _ hw ih =>
    rcases World.perform_store hw with ⟨c, rfl⟩ | ⟨hs, hc⟩
    · cases hw
      rcases mem_told_past_cons.mp ha with ⟨-, hnew⟩ | hold
      · exact holds _ _ ht c a hnew
      · exact stays _ a c (ih hold)
    · rw [hs]
      rcases mem_told_past_cons.mp ha with ⟨-, hnew⟩ | hold
      · obtain ⟨c, r, hex⟩ := only _ a hnew
        exact absurd (congrArg Exchange.call hex) (hc c)
      · exact ih hold
  | lost _ _ _ ih =>
    rcases mem_told_past_cons.mp ha with ⟨-, hnew⟩ | hold
    · obtain ⟨c, r, hex⟩ := only _ a hnew
      cases hex
    · exact ih hold

/-- A task has come to its end. -/
def Returned (s : S.State) (i : Nat) (o : S.Op) (r : Except ServiceError (S.Result o)) : Prop :=
  s.tasks[i]? = some ⟨o, some (.done r)⟩

theorem Keeps.returned {ends : (o : S.Op) → Past → Except ServiceError (S.Result o) → Prop}
    {s : S.State} (h : Keeps rule ends w₀ s) {i : Nat} {o : S.Op}
    {r : Except ServiceError (S.Result o)} (hr : Returned s i o r) : ends o (past s.log i) r :=
  h.rests i o _ hr

end Pool
end AccessGrants
