import AccessGrants.Proofs.Alone.Session
import AccessGrants.Proofs.Store.Rows

/-!
# AccessGrants.Proofs.Alone.Reachable

The states that a store can come to. They are made of an empty one by calls of any kind, so the
operations of the services lead to no others.

* `MemoryStore.Reachable`  — such a state.
* `finish_calls`           — whatever a program does, it does to the store by calls.
* `Session.after_calls`    — and so do any turns.
-/

namespace AccessGrants

namespace MemoryStore

variable {s : MemoryStore}

/-- Some calls have made the state of an empty store. -/
def Reachable (s : MemoryStore) : Prop :=
  ∃ pageSize calls, s = (empty pageSize).run calls

theorem run_append (s : MemoryStore) (calls later : List StoreCall) :
    s.run (calls ++ later) = (s.run calls).run later := by
  rw [run, List.foldl_append]
  rfl

theorem reachable_empty (pageSize : Nat) : (empty pageSize).Reachable :=
  ⟨pageSize, [], rfl⟩

theorem Reachable.run (h : s.Reachable) (calls : List StoreCall) : (s.run calls).Reachable := by
  obtain ⟨pageSize, earlier, rfl⟩ := h
  exact ⟨pageSize, earlier ++ calls, (run_append _ earlier calls).symm⟩

theorem Reachable.agree (h : s.Reachable) : s.LinksAgree := by
  obtain ⟨pageSize, calls, rfl⟩ := h
  exact run_agree (empty_agree pageSize) calls

theorem Reachable.filed (h : s.Reachable) : s.Filed := by
  obtain ⟨pageSize, calls, rfl⟩ := h
  exact run_filed pageSize calls

/-- A stored target group is there to stay. -/
theorem targetGroup_stays_run {k : String} {group : TargetGroup} (h : s.targetGroups[k]? = some group)
    (calls : List StoreCall) : (s.run calls).targetGroups[k]? = some group := by
  induction calls generalizing s with
  | nil => exact h
  | cons c calls ih => exact ih (targetGroup_stays h c)

end MemoryStore

/-- A program changes the store by calls of it, and by nothing else. -/
theorem Interaction.finish_calls (moments : Nat → Moment) (s : Session) (p : Proc α) :
    ∃ calls, (p.finish moments s).2.store = s.store.run calls := by
  induction p generalizing moments s with
  | done a => exact ⟨[], rfl⟩
  | step c next ih =>
    rw [finish]
    split
    · rename_i r store hanswer
      obtain ⟨calls, hcalls⟩ := ih r (fun n => moments (n + 1)) ⟨store, ⟨c, some r⟩ :: s.past⟩
      by_cases hc : ∃ c', c = .resource (.store c')
      · obtain ⟨c', rfl⟩ := hc
        rw [MemoryStore.answer_store, Option.some.injEq, Prod.mk.injEq] at hanswer
        refine ⟨c' :: calls, hcalls.trans ?_⟩
        rw [← hanswer.2]
        rfl
      · have hsame := MemoryStore.answer_of_not_store hanswer fun c' heq => hc ⟨c', heq⟩
        subst hsame
        exact ⟨calls, hcalls⟩
    · exact ⟨[], rfl⟩
  | overflow => exact ⟨[], rfl⟩

theorem Interaction.finish_reachable {moments : Nat → Moment} {s s' : Session} {p : Proc α}
    {answer : Option α} (h : s.store.Reachable) (hrun : p.finish moments s = (answer, s')) :
    s'.store.Reachable := by
  obtain ⟨calls, hcalls⟩ := finish_calls moments s p
  rw [hrun] at hcalls
  rw [hcalls]
  exact h.run calls

theorem Interaction.targetGroup_stays {moments : Nat → Moment} {s s' : Session} {p : Proc α}
    {answer : Option α} {k : String} {group : TargetGroup} (h : s.store.targetGroups[k]? = some group)
    (hrun : p.finish moments s = (answer, s')) : s'.store.targetGroups[k]? = some group := by
  obtain ⟨calls, hcalls⟩ := finish_calls moments s p
  rw [hrun] at hcalls
  rw [hcalls]
  exact MemoryStore.targetGroup_stays_run h calls

theorem Session.after_calls {Op : Type} {Result : Op → Type}
    (program : (o : Op) → Service (Result o)) (s : Session) (turns : List (Turn Op)) :
    ∃ calls, (s.after program turns).store = s.store.run calls := by
  induction turns generalizing s with
  | nil => exact ⟨[], rfl⟩
  | cons t turns ih =>
    obtain ⟨calls, hcalls⟩ := Interaction.finish_calls t.moments s (program t.op).run
    obtain ⟨later, hlater⟩ := ih (s.serve program t).2
    refine ⟨calls ++ later, hlater.trans ?_⟩
    rw [MemoryStore.run_append, ← hcalls]
    rfl

end AccessGrants
