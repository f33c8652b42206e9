import AccessGrants.Proofs.Alone.Run
import AccessGrants.Proofs.Concurrency.Aside

/-!
# AccessGrants.Proofs.Alone.Session

Operations one after the other over one store. Each comes to its end before the next one starts.

* `Interaction.finish`  — one operation, to its end or to where it gets no further.
* `Session`             — what is stored and what was said so far.
* `Session.serve`, `Session.after` — one turn, and many of them.
* `finish_ensures`      — what holds at the end of every run holds at the end of this one.
* `finish_append`, `finish_clock`, `finish_past` — what a run has to do with what was said before it,
                          with the clock, and with the calls that its program may make.
* `exists_finish`       — a program that asks no workflow and does not overflow comes to its end.
-/

namespace AccessGrants

/-- What is stored, and the exchanges so far, newest first. -/
structure Session where
  store : MemoryStore
  past : Past

namespace MemoryStore

theorem exists_answer (m : Moment) (s : MemoryStore) {c : Call} (hc : c.isWorkflow = false) :
    ∃ r s', s.answer m c = some (r, s') := by
  cases c with
  | resource q => cases q <;> exact ⟨_, _, rfl⟩
  | grant g subject => cases hc
  | revoke r id email => cases hc
  | _ => exact ⟨_, _, rfl⟩

end MemoryStore

namespace Interaction

/-- The n-th call is made at the n-th moment. There is no result where the program overflows and
where a call never returns; what was done until then stays. -/
def finish : (Nat → Moment) → Session → Proc α → Option α × Session
  | _, s, done a => (some a, s)
  | moments, s, step c next =>
    match s.store.answer (moments 0) c with
    | some (r, store) => finish (fun n => moments (n + 1)) ⟨store, ⟨c, some r⟩ :: s.past⟩ (next r)
    | none => (none, ⟨s.store, ⟨c, none⟩ :: s.past⟩)
  | _, s, overflow => (none, s)

variable {moments : Nat → Moment} {s s' : Session}

theorem finish_ensures {post : MemoryStore → Past → α → Prop} {p : Proc α}
    (h : Ensures post s.store s.past p) {a : α} (hrun : p.finish moments s = (some a, s')) :
    post s'.store s'.past a := by
  induction p generalizing moments s with
  | done b =>
    cases hrun
    exact h
  | step c next ih =>
    rw [finish] at hrun
    split at hrun
    · rename_i r store hs
      exact ih r (h _ r store hs) hrun
    · cases hrun
  | overflow => cases hrun

theorem exists_finish (moments : Nat → Moment) (s : Session) {rule : Past → Call → Prop}
    {ends : Past → α → Prop} {p : Proc α} {past : Past} (h : Obeys rule ends past p)
    (hrule : ∀ past c, rule past c → c.isWorkflow = false) :
    ∃ a s', p.finish moments s = (some a, s') := by
  induction p generalizing moments s past with
  | done a => exact ⟨a, s, rfl⟩
  | step c next ih =>
    obtain ⟨r, store, hs⟩ := s.store.exists_answer (moments 0) (hrule past c h.1)
    rw [finish, hs]
    exact ih r (fun n => moments (n + 1)) ⟨store, ⟨c, some r⟩ :: s.past⟩ (h.2 r)
  | overflow => exact h.elim

/-- What was said before the program makes no difference to it. -/
theorem finish_append (moments : Nat → Moment) (store : MemoryStore) (past past₀ : Past) (p : Proc α) :
    p.finish moments ⟨store, past ++ past₀⟩ =
      ((p.finish moments ⟨store, past⟩).1, ⟨(p.finish moments ⟨store, past⟩).2.store,
        (p.finish moments ⟨store, past⟩).2.past ++ past₀⟩) := by
  induction p generalizing moments store past with
  | done a => rfl
  | step c next ih =>
    simp only [finish]
    cases store.answer (moments 0) c with
    | none => rfl
    | some reply => exact ih reply.1 (fun n => moments (n + 1)) reply.2 (⟨c, some reply.1⟩ :: past)
  | overflow => rfl

/-- The clock shows a program nothing but the times of its moments. -/
theorem finish_clock (moments : Nat → Moment) (s : Session) (p : Proc α) {t : Instant}
    (ht : ⟨.resource .now, some t⟩ ∈ (p.finish moments s).2.past) :
    ⟨.resource .now, some t⟩ ∈ s.past ∨ ∃ n, t = (moments n).clock := by
  induction p generalizing moments s with
  | done a => exact .inl ht
  | step c next ih =>
    rw [finish] at ht
    split at ht
    · rename_i r store hs
      rcases ih r _ _ ht with hbefore | ⟨n, hn⟩
      · rcases List.mem_cons.mp hbefore with heq | hbefore
        · cases heq
          cases hs
          exact .inr ⟨0, rfl⟩
        · exact .inl hbefore
      · exact .inr ⟨n + 1, hn⟩
    · rcases List.mem_cons.mp ht with heq | hbefore
      · cases heq
      · exact .inl hbefore
  | overflow => exact .inl ht

/-- A run adds exchanges to the past, all of them with calls that the program may make. -/
theorem finish_past (moments : Nat → Moment) (s : Session) {kind : Call → Bool}
    {ends : Past → α → Prop} {p : Proc α} {past : Past} (h : Obeys (fun _ c => kind c) ends past p) :
    ∃ new, (p.finish moments s).2.past = new ++ s.past ∧ ∀ e ∈ new, kind e.call = true := by
  induction p generalizing moments s past with
  | done a => exact ⟨[], rfl, by simp⟩
  | step c next ih =>
    rw [finish]
    split
    · rename_i r store hs
      obtain ⟨new, hnew, hkind⟩ := ih r (fun n => moments (n + 1)) ⟨store, ⟨c, some r⟩ :: s.past⟩ (h.2 r)
      refine ⟨new ++ [⟨c, some r⟩], by rw [hnew, List.append_assoc]; rfl, fun e he => ?_⟩
      rcases List.mem_append.mp he with he | he
      · exact hkind e he
      · rw [List.mem_singleton.mp he]
        exact h.1
    · exact ⟨[⟨c, none⟩], rfl, fun e he => by rw [List.mem_singleton.mp he]; exact h.1⟩
  | overflow => exact h.elim

theorem ensures_of_obeys (inv : MemoryStore → Past → Prop) {rule : Past → Call → Prop}
    {ends : Past → α → Prop} {p : Proc α} {s : MemoryStore} {past : Past}
    (h : Obeys rule ends past p)
    (hstep : ∀ past c, rule past c → ∀ s m r s', inv s past → s.answer m c = some (r, s') →
      inv s' (⟨c, some r⟩ :: past))
    (hinv : inv s past) : Ensures (fun s past a => inv s past ∧ ends past a) s past p := by
  induction p generalizing s past with
  | done a => exact ⟨hinv, h⟩
  | step c next ih =>
    intro m r s' hs
    exact ih r (h.2 r) (hstep past c h.1 s m r s' hinv hs)
  | overflow => trivial

end Interaction

/-- An operation and the moments of its calls. -/
structure Turn (Op : Type) where
  op : Op
  moments : Nat → Moment

namespace Session

/-- Nothing is stored, and nothing was said. -/
def start (pageSize : Nat) : Session :=
  ⟨.empty pageSize, []⟩

variable {Op : Type} {Result : Op → Type}

/-- The answer in a turn, and the session after it. -/
def serve (program : (o : Op) → Service (Result o)) (s : Session) (t : Turn Op) :
    Option (Except ServiceError (Result t.op)) × Session :=
  (program t.op).run.finish t.moments s

def after (program : (o : Op) → Service (Result o)) (s : Session) (turns : List (Turn Op)) :
    Session :=
  turns.foldl (fun s t => (s.serve program t).2) s

variable {program : (o : Op) → Service (Result o)}

theorem after_keeps (inv : Session → Prop) (hstep : ∀ s t, inv s → inv (s.serve program t).2)
    {s : Session} (h : inv s) (turns : List (Turn Op)) : inv (s.after program turns) := by
  induction turns generalizing s with
  | nil => exact h
  | cons t rest ih => exact ih (hstep s t h)

end Session
end AccessGrants
