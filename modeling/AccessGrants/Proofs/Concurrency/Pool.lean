import AccessGrants.Proofs.Concurrency.History
import AccessGrants.Proofs.Concurrency.World

/-!
# AccessGrants.Proofs.Concurrency.Pool

Operations side by side over one world. Tasks are started at any time and in any number, and one
move performs one call of one task, so the moves of a run are an arbitrary interleaving.

* `Pool.run`     — the state after a list of moves.
* `Entry`        — what the log keeps of a call: who made it, for what operation, and the reply.
* `Trace`        — the same runs without the programs: every call keeps the rule of its operation.
* `run_keeps`    — a run of programs that keep a rule is a trace, so invariants of the world and the
                   log are proved by induction on traces.
* `exists_ended` — where every call returns, all tasks can be run to their ends.
-/

namespace AccessGrants

/-- The operations that may run, and what is fixed about their surroundings. -/
structure Pool where
  Op : Type
  Result : Op → Type
  program : (o : Op) → Service (Result o)
  view : Surroundings → Surroundings := id

namespace Pool

variable (S : Pool)

/-- An operation under way and what is left of its program; nothing is when a call of it never
returned. -/
structure Task where
  op : S.Op
  rest : Option (Proc (Except ServiceError (S.Result op)))

structure Entry where
  task : Nat
  op : S.Op
  exchange : Exchange Call.Reply

/-- The log stands newest first. -/
structure State where
  world : World
  tasks : List S.Task
  log : List S.Entry

/-- `clock` lets the clock show another time. -/
inductive Move where
  | start (op : S.Op)
  | clock (t : Instant)
  | proceed (task : Nat) (x : Surroundings)

variable {S}

/-- One call of a task. A call that never returns is the end of it. -/
def proceed (s : S.State) (i : Nat) (x : Surroundings) : S.State :=
  match s.tasks[i]? with
  | some ⟨o, some (.step c next)⟩ =>
    match s.world.perform (S.view x) c with
    | some (r, w) => ⟨w, s.tasks.set i ⟨o, some (next r)⟩, ⟨i, o, c, some r⟩ :: s.log⟩
    | none => ⟨s.world, s.tasks.set i ⟨o, none⟩, ⟨i, o, c, none⟩ :: s.log⟩
  | _ => s

def act (s : S.State) : S.Move → S.State
  | .start o => { s with tasks := s.tasks ++ [⟨o, some (S.program o).run⟩] }
  | .clock t => { s with world := { s.world with clock := t } }
  | .proceed i x => proceed s i x

/-- The call that a task is about to make. -/
def pending (s : S.State) (i : Nat) : Option Call :=
  match s.tasks[i]? with
  | some ⟨_, some (.step c _)⟩ => some c
  | _ => none

/-- The state after some moves, from a world without tasks. -/
def run (w : World) (moves : List S.Move) : S.State :=
  moves.foldl act ⟨w, [], []⟩

/-- The exchanges of one task. -/
def past (log : List S.Entry) (i : Nat) : Past :=
  log.filterMap fun e => if e.task = i then some e.exchange else none

@[simp] theorem past_nil (i : Nat) : past ([] : List S.Entry) i = [] := rfl

theorem past_cons (e : S.Entry) (log : List S.Entry) (i : Nat) :
    past (e :: log) i = if e.task = i then e.exchange :: past log i else past log i := by
  simp only [past, List.filterMap_cons]
  split <;> simp_all

@[simp] theorem past_cons_self (i : Nat) (o : S.Op) (ex : Exchange Call.Reply)
    (log : List S.Entry) : past (⟨i, o, ex⟩ :: log) i = ex :: past log i := by
  rw [past_cons, if_pos rfl]

theorem past_cons_ne {i j : Nat} (h : i ≠ j) (o : S.Op) (ex : Exchange Call.Reply)
    (log : List S.Entry) : past (⟨i, o, ex⟩ :: log) j = past log j := by
  rw [past_cons, if_neg h]

theorem mem_past_cons {i j : Nat} {o : S.Op} {ex ex' : Exchange Call.Reply} {log : List S.Entry} :
    ex' ∈ past (⟨i, o, ex⟩ :: log) j ↔ (i = j ∧ ex' = ex) ∨ ex' ∈ past log j := by
  rw [past_cons]
  by_cases hij : i = j
  · simp [hij]
  · simp [hij]

theorem told_past_cons {kind : Exchange Call.Reply → Option α} {i j : Nat} {o : S.Op}
    {ex : Exchange Call.Reply} {log : List S.Entry} :
    told kind (past (⟨i, o, ex⟩ :: log) j) =
      if i = j then (kind ex).toList ++ told kind (past log j) else told kind (past log j) := by
  rw [past_cons]
  split
  · rw [told_cons]
  · rfl

theorem mem_told_past_cons {kind : Exchange Call.Reply → Option α} {i j : Nat} {o : S.Op}
    {ex : Exchange Call.Reply} {log : List S.Entry} {a : α} :
    a ∈ told kind (past (⟨i, o, ex⟩ :: log) j) ↔
      (i = j ∧ kind ex = some a) ∨ a ∈ told kind (past log j) := by
  rw [told_past_cons]
  by_cases hij : i = j
  · simp [hij, Option.mem_toList]
  · simp [hij]

theorem mem_past {log : List S.Entry} {i : Nat} {ex : Exchange Call.Reply} :
    ex ∈ past log i ↔ ∃ e ∈ log, e.task = i ∧ e.exchange = ex := by
  simp [past]

theorem mem_told_past_of_mem {kind : Exchange Call.Reply → Option α} {log : List S.Entry}
    {e : S.Entry} (he : e ∈ log) {a : α} (ha : kind e.exchange = some a) :
    a ∈ told kind (past log e.task) :=
  List.mem_filterMap.mpr ⟨e.exchange, mem_past.mpr ⟨e, he, rfl, rfl⟩, ha⟩

/-- When every task tells a thing at most once and no two tasks tell the same, it is told at most
once. -/
theorem told_nodup {kind : Exchange Call.Reply → Option α} {f : α → β} {log : List S.Entry}
    (owner : ∀ i j a b, a ∈ told kind (past log i) → b ∈ told kind (past log j) → f a = f b → i = j)
    (once : ∀ i, ((told kind (past log i)).map f).Nodup) :
    ((told kind (log.map (·.exchange))).map f).Nodup := by
  induction log with
  | nil => exact List.nodup_nil
  | cons e log ih =>
    obtain ⟨i, o, ex⟩ := e
    have hn := ih
      (fun j k a b ha hb => owner j k a b (mem_told_past_cons.mpr (.inr ha))
        (mem_told_past_cons.mpr (.inr hb)))
      (fun j => by
        have hj := once j
        rw [told_past_cons] at hj
        split at hj
        · rw [List.map_append] at hj
          exact (List.nodup_append.mp hj).2.1
        · exact hj)
    rw [List.map_cons, told_cons]
    cases hex : kind ex with
    | none => exact hn
    | some a =>
      refine List.nodup_cons.mpr ⟨fun hmem => ?_, hn⟩
      obtain ⟨b, hb, hab⟩ := List.mem_map.mp hmem
      obtain ⟨ex', hex', hb⟩ := List.mem_filterMap.mp hb
      obtain ⟨e, he, rfl⟩ := List.mem_map.mp hex'
      have hold : b ∈ told kind (past log e.task) := mem_told_past_of_mem he hb
      obtain rfl : i = e.task := owner i e.task a b (mem_told_past_cons.mpr (.inl ⟨rfl, hex⟩))
        (mem_told_past_cons.mpr (.inr hold)) hab.symm
      have htwice := once e.task
      rw [told_past_cons, if_pos rfl, hex] at htwice
      exact (List.nodup_cons.mp htwice).1 (List.mem_map.mpr ⟨b, hold, hab⟩)

theorem mem_told_of_past {kind : Exchange Call.Reply → Option α} {log : List S.Entry} {i : Nat}
    {a : α} (h : a ∈ told kind (past log i)) : a ∈ told kind (log.map (·.exchange)) := by
  obtain ⟨ex, hex, ha⟩ := List.mem_filterMap.mp h
  obtain ⟨e, he, -, rfl⟩ := mem_past.mp hex
  exact List.mem_filterMap.mpr ⟨e.exchange, List.mem_map_of_mem he, ha⟩

theorem eq_of_told_nodup {kind : Exchange Call.Reply → Option α} {log : List S.Entry}
    (hn : (told kind (log.map (·.exchange))).Nodup) {i j : Nat} {a : α}
    (hi : a ∈ told kind (past log i)) (hj : a ∈ told kind (past log j)) : i = j := by
  induction log with
  | nil => cases hi
  | cons e log ih =>
    obtain ⟨k, o, ex⟩ := e
    rw [List.map_cons, told_cons] at hn
    have fresh : kind ex = some a → a ∉ told kind (log.map (·.exchange)) := by
      intro hex
      rw [hex] at hn
      exact (List.nodup_cons.mp hn).1
    rcases mem_told_past_cons.mp hi with ⟨rfl, hex⟩ | hi
    · rcases mem_told_past_cons.mp hj with ⟨rfl, -⟩ | hj
      · rfl
      · exact absurd (mem_told_of_past hj) (fresh hex)
    · rcases mem_told_past_cons.mp hj with ⟨rfl, hex⟩ | hj
      · exact absurd (mem_told_of_past hi) (fresh hex)
      · exact ih (List.nodup_append.mp hn).2.1 hi hj

/-- What can be told of a run without its programs: the worlds and the logs that come about when
every call keeps the rule of its operation. -/
inductive Trace (rule : S.Op → Past → Call → Prop) (w₀ : World) :
    World → List S.Entry → Prop
  | init : Trace rule w₀ w₀ []
  | clock {w : World} {log : List S.Entry} (t : Instant) :
      Trace rule w₀ w log → Trace rule w₀ { w with clock := t } log
  | answered {w w' : World} {log : List S.Entry} {x : Surroundings} {i : Nat} {o : S.Op} {c : Call}
      {r : c.Reply} :
      Trace rule w₀ w log → (∀ e ∈ log, e.task = i → e.op = o) → rule o (past log i) c →
      w.perform (S.view x) c = some (r, w') → Trace rule w₀ w' (⟨i, o, c, some r⟩ :: log)
  | lost {w : World} {log : List S.Entry} {i : Nat} {o : S.Op} {c : Call} :
      Trace rule w₀ w log → (∀ e ∈ log, e.task = i → e.op = o) → rule o (past log i) c →
      Trace rule w₀ w (⟨i, o, c, none⟩ :: log)

theorem kept_cons {rule : S.Op → Past → Call → Prop} {log : List S.Entry}
    {i j : Nat} {o o' : S.Op} {ex : Exchange Call.Reply} (hc : rule o' (past log j) ex.call)
    (ho : ∀ e ∈ ⟨j, o', ex⟩ :: log, e.task = i → e.op = o)
    (h : Interaction.Kept (rule o) (past log i)) :
    Interaction.Kept (rule o) (past (⟨j, o', ex⟩ :: log) i) := by
  by_cases hji : j = i
  · subst hji
    obtain rfl : o' = o := ho _ List.mem_cons_self rfl
    rw [past_cons_self]
    exact ⟨hc, h⟩
  · rw [past_cons_ne hji]
    exact h

/-- The calls of one task kept the rule of its operation. -/
theorem Trace.kept {rule : S.Op → Past → Call → Prop} {w₀ w : World}
    {log : List S.Entry} (h : Trace rule w₀ w log) {i : Nat} {o : S.Op}
    (ho : ∀ e ∈ log, e.task = i → e.op = o) : Interaction.Kept (rule o) (past log i) := by
  induction h with
  | init => trivial
  | clock t _ ih => exact ih ho
  | answered _ _ hc _ ih => exact kept_cons hc ho (ih fun e he => ho e (List.mem_cons_of_mem _ he))
  | lost _ _ hc ih => exact kept_cons hc ho (ih fun e he => ho e (List.mem_cons_of_mem _ he))

/-- A task of this operation has made a call. -/
def Runs (log : List S.Entry) (i : Nat) (o : S.Op) : Prop :=
  ∃ e ∈ log, e.task = i ∧ e.op = o

theorem Runs.cons {log : List S.Entry} {i : Nat} {o : S.Op} (h : Runs log i o) (e : S.Entry) :
    Runs (e :: log) i o := by
  obtain ⟨e', he', h⟩ := h
  exact ⟨e', List.mem_cons_of_mem _ he', h⟩

theorem runs_of_told {kind : Exchange Call.Reply → Option α} {log : List S.Entry} {i : Nat} {a : α}
    (h : a ∈ told kind (past log i)) : ∃ o, Runs log i o := by
  obtain ⟨ex, hex, -⟩ := List.mem_filterMap.mp h
  obtain ⟨e, he, hi, -⟩ := mem_past.mp hex
  exact ⟨e.op, e, he, hi, rfl⟩

theorem op_unique_cons {log : List S.Entry} {i : Nat} {o : S.Op} {ex : Exchange Call.Reply}
    (h : ∀ e ∈ log, ∀ e' ∈ log, e.task = e'.task → e.op = e'.op)
    (ho : ∀ e ∈ log, e.task = i → e.op = o) :
    ∀ e ∈ ⟨i, o, ex⟩ :: log, ∀ e' ∈ ⟨i, o, ex⟩ :: log, e.task = e'.task → e.op = e'.op := by
  intro e he e' he' ht
  rcases List.mem_cons.mp he with rfl | he
  · rcases List.mem_cons.mp he' with rfl | he'
    · rfl
    · exact (ho e' he' ht.symm).symm
  · rcases List.mem_cons.mp he' with rfl | he'
    · exact ho e he ht
    · exact h e he e' he' ht

theorem Trace.op_unique {rule : S.Op → Past → Call → Prop} {w₀ w : World} {log : List S.Entry}
    (h : Trace rule w₀ w log) : ∀ e ∈ log, ∀ e' ∈ log, e.task = e'.task → e.op = e'.op := by
  induction h with
  | init => simp
  | clock t _ ih => exact ih
  | answered _ ho _ _ ih => exact op_unique_cons ih ho
  | lost _ ho _ ih => exact op_unique_cons ih ho

theorem Trace.runs_unique {rule : S.Op → Past → Call → Prop} {w₀ w : World} {log : List S.Entry}
    (h : Trace rule w₀ w log) {i : Nat} {o o' : S.Op} (ho : Runs log i o) (ho' : Runs log i o') :
    o = o' := by
  obtain ⟨e, he, hi, rfl⟩ := ho
  obtain ⟨e', he', hi', rfl⟩ := ho'
  exact h.op_unique e he e' he' (hi.trans hi'.symm)

theorem Trace.kept_of_runs {rule : S.Op → Past → Call → Prop} {w₀ w : World} {log : List S.Entry}
    (h : Trace rule w₀ w log) {i : Nat} {o : S.Op} (ho : Runs log i o) :
    Interaction.Kept (rule o) (past log i) :=
  h.kept fun e he hi => h.runs_unique ⟨e, he, hi, rfl⟩ ho

theorem Trace.at_call {rule : S.Op → Past → Call → Prop} {w₀ w : World} {log newer older : List S.Entry}
    {e : S.Entry} (h : Trace rule w₀ w log) (hlog : log = newer ++ e :: older) :
    ∃ w₁, Trace rule w₀ w₁ older ∧ rule e.op (past older e.task) e.exchange.call ∧
      ∀ r, e.exchange.reply = some r →
        ∃ x w₂, w₁.perform (S.view x) e.exchange.call = some (r, w₂) := by
  induction h generalizing newer with
  | init => simp at hlog
  | clock t _ ih => exact ih hlog
  | answered ht _ hc hw ih =>
    cases newer with
    | nil =>
      cases hlog
      exact ⟨_, ht, hc, fun r hr => by cases hr; exact ⟨_, _, hw⟩⟩
    | cons e' newer =>
      cases hlog
      exact ih rfl
  | lost ht _ hc ih =>
    cases newer with
    | nil =>
      cases hlog
      exact ⟨_, ht, hc, fun r hr => by cases hr⟩
    | cons e' newer =>
      cases hlog
      exact ih rfl

section Run

variable {rule : S.Op → Past → Call → Prop}
  {ends : (o : S.Op) → Past → Except ServiceError (S.Result o) → Prop}

/-- What holds of every state of a run: its log is a trace, and what is left of each task keeps the
rule in view of the task's own past. -/
structure Keeps (rule : S.Op → Past → Call → Prop)
    (ends : (o : S.Op) → Past → Except ServiceError (S.Result o) → Prop)
    (w₀ : World) (s : S.State) : Prop where
  trace : Trace rule w₀ s.world s.log
  tasks : ∀ e ∈ s.log, ∃ t, s.tasks[e.task]? = some t ∧ t.op = e.op
  rests : ∀ i o p, s.tasks[i]? = some ⟨o, some p⟩ →
    Interaction.Obeys (rule o) (ends o) (past s.log i) p

theorem Keeps.init (w₀ : World) : Keeps rule ends w₀ ⟨w₀, [], []⟩ where
  trace := .init
  tasks := by simp
  rests := by simp

theorem Keeps.start {w₀ : World} {s : S.State} (h : Keeps rule ends w₀ s) {o : S.Op}
    (ho : Interaction.Obeys (rule o) (ends o) [] (S.program o).run) :
    Keeps rule ends w₀ (act s (.start o)) where
  trace := h.trace
  tasks e he := by
    obtain ⟨t, ht, hop⟩ := h.tasks e he
    refine ⟨t, ?_, hop⟩
    rw [act, List.getElem?_append_left (List.getElem?_eq_some_iff.mp ht).1]
    exact ht
  rests i o' p ht := by
    simp only [act] at ht ⊢
    by_cases hi : i < s.tasks.length
    · rw [List.getElem?_append_left hi] at ht
      exact h.rests i o' p ht
    · have hlt := (List.getElem?_eq_some_iff.mp ht).1
      obtain rfl : i = s.tasks.length := by simp at hlt; omega
      have hnew : (⟨o, some (S.program o).run⟩ : S.Task) = ⟨o', some p⟩ := by simpa using ht
      cases hnew
      have hpast : past s.log s.tasks.length = [] := by
        rw [past, List.filterMap_eq_nil_iff]
        intro e he
        obtain ⟨t, ht, -⟩ := h.tasks e he
        have := (List.getElem?_eq_some_iff.mp ht).1
        rw [if_neg (by omega)]
      rw [hpast]
      exact ho

theorem Keeps.clock {w₀ : World} {s : S.State} (h : Keeps rule ends w₀ s) (t : Instant) :
    Keeps rule ends w₀ (act s (.clock t)) :=
  ⟨.clock t h.trace, h.tasks, h.rests⟩

/-- What a task's own exchange leaves to be shown: that the trace goes on, and that the task goes
on in view of it. -/
theorem Keeps.exchange {w₀ w : World} {s : S.State} (h : Keeps rule ends w₀ s) {i : Nat} {o : S.Op}
    {rest rest' : Option (Proc (Except ServiceError (S.Result o)))} {ex : Exchange Call.Reply}
    (hi : s.tasks[i]? = some ⟨o, rest⟩) (ht : Trace rule w₀ w (⟨i, o, ex⟩ :: s.log))
    (hr : ∀ p, rest' = some p →
      Interaction.Obeys (rule o) (ends o) (ex :: past s.log i) p) :
    Keeps rule ends w₀ ⟨w, s.tasks.set i ⟨o, rest'⟩, ⟨i, o, ex⟩ :: s.log⟩ where
  trace := ht
  tasks e he := by
    have hlt := (List.getElem?_eq_some_iff.mp hi).1
    by_cases hei : i = e.task
    · refine ⟨⟨o, rest'⟩, by simp [← hei, hlt], ?_⟩
      rcases List.mem_cons.mp he with rfl | he
      · rfl
      · obtain ⟨t, ht, hop⟩ := h.tasks e he
        rw [← hei, hi] at ht
        cases ht
        exact hop
    · rcases List.mem_cons.mp he with rfl | he
      · exact absurd rfl hei
      · obtain ⟨t, ht, hop⟩ := h.tasks e he
        exact ⟨t, by rw [List.getElem?_set_ne hei]; exact ht, hop⟩
  rests j o' p hj := by
    by_cases hij : i = j
    · subst hij
      have hlt := (List.getElem?_eq_some_iff.mp hi).1
      have hnew : (⟨o, rest'⟩ : S.Task) = ⟨o', some p⟩ := by simpa [List.getElem?_set, hlt] using hj
      cases hnew
      rw [past_cons_self]
      exact hr p rfl
    · rw [List.getElem?_set_ne hij] at hj
      rw [past_cons_ne hij]
      exact h.rests j o' p hj

theorem Keeps.same_op {w₀ : World} {s : S.State} (h : Keeps rule ends w₀ s) {i : Nat} {o : S.Op}
    {rest : Option (Proc (Except ServiceError (S.Result o)))} (hi : s.tasks[i]? = some ⟨o, rest⟩) :
    ∀ e ∈ s.log, e.task = i → e.op = o := by
  rintro e he rfl
  obtain ⟨t, ht, hop⟩ := h.tasks e he
  rw [hi] at ht
  cases ht
  exact hop.symm

theorem Keeps.proceed {w₀ : World} {s : S.State} (h : Keeps rule ends w₀ s) (i : Nat)
    (x : Surroundings) : Keeps rule ends w₀ (proceed s i x) := by
  unfold Pool.proceed
  split
  · rename_i o c next hi
    obtain ⟨hc, hnext⟩ := h.rests i _ _ hi
    have hop := h.same_op hi
    split
    · rename_i r w hw
      exact h.exchange hi (.answered h.trace hop hc hw) fun p hp => by cases hp; exact hnext r
    · exact h.exchange hi (.lost h.trace hop hc) fun p hp => by cases hp
  · exact h

theorem Keeps.proceeds {w₀ : World} {x : Surroundings} {moves : List S.Move} {s : S.State}
    (h : Keeps rule ends w₀ s) (hm : ∀ m ∈ moves, ∃ i, m = Move.proceed i x) :
    Keeps rule ends w₀ (moves.foldl act s) := by
  induction moves generalizing s with
  | nil => exact h
  | cons m moves ih =>
    obtain ⟨i, rfl⟩ := hm _ List.mem_cons_self
    exact ih (h.proceed i x) fun m hm' => hm m (List.mem_cons_of_mem _ hm')

variable (hS : ∀ o, Interaction.Obeys (rule o) (ends o) [] (S.program o).run)
include hS

theorem Keeps.foldl {w₀ : World} (moves : List S.Move) {s : S.State} (h : Keeps rule ends w₀ s) :
    Keeps rule ends w₀ (moves.foldl act s) := by
  induction moves generalizing s with
  | nil => exact h
  | cons m moves ih =>
    cases m with
    | start o => exact ih (h.start (hS o))
    | clock t => exact ih (h.clock t)
    | proceed i x => exact ih (h.proceed i x)

/-- Programs that keep a rule on their own keep it side by side. -/
theorem run_keeps (w₀ : World) (moves : List S.Move) : Keeps rule ends w₀ (run w₀ moves) :=
  Keeps.foldl hS moves (.init w₀)

end Run

theorem run_append (w : World) (moves more : List S.Move) :
    run w (moves ++ more) = more.foldl act (run w moves) :=
  List.foldl_append

theorem run_take_succ (w : World) {moves : List S.Move} {n : Nat} {m : S.Move}
    (h : moves[n]? = some m) : run w (moves.take (n + 1)) = act (run w (moves.take n)) m := by
  rw [List.take_add_one, h, run_append]
  rfl

/-- What every move of a run preserves stays. -/
theorem run_take_le {P : S.State → Prop} {w : World} {moves : List S.Move} {n n' : Nat}
    (step : ∀ k < n', ∀ m, moves[k]? = some m → P (run w (moves.take k)) →
      P (act (run w (moves.take k)) m))
    (hle : n ≤ n') (h : P (run w (moves.take n))) : P (run w (moves.take n')) := by
  induction hle with
  | refl => exact h
  | @step k _ ih =>
    have ih := ih fun j hj => step j (by omega)
    cases hm : moves[k]? with
    | none =>
      have hlen : moves.length ≤ k := List.getElem?_eq_none_iff.mp hm
      rw [List.take_of_length_le hlen] at ih
      rw [List.take_of_length_le (Nat.le_succ_of_le hlen)]
      exact ih
    | some m =>
      rw [run_take_succ w hm]
      exact step k (Nat.lt_succ_self k) m hm ih

theorem proceed_eq {s : S.State} {i : Nat} {x : Surroundings} {o : S.Op} {c : Call}
    {next : c.Reply → Proc (Except ServiceError (S.Result o))} {r : c.Reply} {w : World}
    (hi : s.tasks[i]? = some ⟨o, some (.step c next)⟩)
    (hw : s.world.perform (S.view x) c = some (r, w)) :
    proceed s i x = ⟨w, s.tasks.set i ⟨o, some (next r)⟩, ⟨i, o, c, some r⟩ :: s.log⟩ := by
  rw [proceed, hi]
  simp only [hw]

theorem pending_eq_some {s : S.State} {i : Nat} {c : Call} :
    pending s i = some c ↔ ∃ o next, s.tasks[i]? = some ⟨o, some (.step c next)⟩ := by
  unfold pending
  split
  · rename_i o c' next hi
    rw [hi]
    constructor
    · intro h
      cases h
      exact ⟨o, next, rfl⟩
    · rintro ⟨_, _, h⟩
      cases h
      rfl
  · rename_i hne
    constructor
    · intro h
      cases h
    · rintro ⟨o, next, h⟩
      exact absurd h (hne o c next)

theorem proceed_of_pending {s : S.State} {i : Nat} (h : pending s i = none) (x : Surroundings) :
    proceed s i x = s := by
  unfold proceed
  split
  · rename_i o c next hi
    rw [pending_eq_some.mpr ⟨o, next, hi⟩] at h
    cases h
  · rfl

theorem proceed_store {s : S.State} {i : Nat} {c : StoreCall}
    (h : pending s i = some (.resource (.store c))) (x : Surroundings) :
    (proceed s i x).world.store = (s.world.store.perform c).2 := by
  obtain ⟨o, next, hi⟩ := pending_eq_some.mp h
  rw [proceed, hi]
  rfl

/-- What a move does: nothing to the store, or one call of a task. -/
theorem act_cases (s : S.State) (m : S.Move) :
    (act s m).world.store = s.world.store ∨
    ∃ i x o c next r, m = .proceed i x ∧ s.tasks[i]? = some ⟨o, some (.step c next)⟩ ∧
      s.world.perform (S.view x) c = some (r, (act s m).world) := by
  cases m with
  | start o => exact .inl rfl
  | clock t => exact .inl rfl
  | proceed i x =>
    simp only [act, proceed]
    split
    · rename_i o c next hi
      split
      · rename_i r w hw
        exact .inr ⟨i, x, o, c, next, r, rfl, hi, hw⟩
      · exact .inl rfl
    · exact .inl rfl

theorem log_suffix_act (s : S.State) (m : S.Move) : s.log <:+ (act s m).log := by
  cases m with
  | start o => exact List.suffix_rfl
  | clock t => exact List.suffix_rfl
  | proceed i x =>
    simp only [act, proceed]
    split
    · split
      · exact List.suffix_cons _ _
      · exact List.suffix_cons _ _
    · exact List.suffix_rfl

theorem log_suffix (w : World) (moves more : List S.Move) :
    (run w moves).log <:+ (run w (moves ++ more)).log := by
  rw [run_append]
  generalize run w moves = s
  induction more generalizing s with
  | nil => exact List.suffix_rfl
  | cons m more ih => exact (log_suffix_act s m).trans (ih _)

theorem mem_told_past_of_suffix {kind : Exchange Call.Reply → Option α} {log log' : List S.Entry}
    (h : log <:+ log') {i : Nat} {a : α} (ha : a ∈ told kind (past log i)) :
    a ∈ told kind (past log' i) := by
  obtain ⟨more, rfl⟩ := h
  simp only [told, past, List.filterMap_append, List.mem_append]
  exact .inr ha

/-! ## Running a task to its end -/

section End

variable {rule : S.Op → Past → Call → Prop}
  {ends : (o : S.Op) → Past → Except ServiceError (S.Result o) → Prop}

/-- Every task has its program, or what is left of it. -/
def Alive (s : S.State) : Prop :=
  ∀ (i : Nat) (t : S.Task), s.tasks[i]? = some t → t.rest.isSome = true

/-- Where every call that the rule admits returns, no task is lost. -/
theorem Alive.act {w₀ : World} {s : S.State} (ha : Alive s) (h : Keeps rule ends w₀ s)
    (hr : ∀ o past c, rule o past c →
      ∀ x w, ∃ r w', World.perform (S.view x) w c = some (r, w')) (m : S.Move) :
    Alive (act s m) := by
  cases m with
  | start o =>
    intro i t ht
    simp only [Pool.act, List.getElem?_append] at ht
    split at ht
    · exact ha i t ht
    · obtain rfl := List.mem_singleton.mp (List.mem_of_getElem? ht)
      rfl
  | clock t => exact ha
  | proceed i x =>
    simp only [Pool.act, Pool.proceed]
    split
    · rename_i o c next hi
      obtain ⟨r, w', hw⟩ := hr o _ c (h.rests i o _ hi).1 x s.world
      simp only [hw]
      intro j t ht
      by_cases hij : i = j
      · subst hij
        have hlt := (List.getElem?_eq_some_iff.mp hi).1
        obtain rfl : (⟨o, some (next r)⟩ : S.Task) = t := by simpa [List.getElem?_set, hlt] using ht
        rfl
      · rw [List.getElem?_set_ne hij] at ht
        exact ha j t ht
    · exact ha

theorem run_alive (hS : ∀ o, Interaction.Obeys (rule o) (ends o) [] (S.program o).run)
    (hr : ∀ o past c, rule o past c →
      ∀ x w, ∃ r w', World.perform (S.view x) w c = some (r, w')) (w₀ : World)
    (moves : List S.Move) : Alive (run w₀ moves) := by
  have alive : ∀ n, Alive (run w₀ (moves.take n)) := fun n =>
    run_take_le (P := Alive) (fun k _ m _ h => h.act (run_keeps hS w₀ (moves.take k)) hr m)
      (Nat.zero_le n) (by intro i t ht; simp [run] at ht)
  have h := alive moves.length
  rw [List.take_length] at h
  exact h

theorem exists_finished {w₀ : World} {x : Surroundings}
    (hr : ∀ o past c, rule o past c → ∀ w, ∃ r w', World.perform (S.view x) w c = some (r, w'))
    {i : Nat} {o : S.Op} (p : Proc (Except ServiceError (S.Result o))) {s : S.State}
    (h : Keeps rule ends w₀ s) (hi : s.tasks[i]? = some ⟨o, some p⟩) :
    ∃ k a, ((List.replicate k (.proceed i x)).foldl act s).tasks[i]? = some ⟨o, some (.done a)⟩ ∧
      ∀ j, i ≠ j → ((List.replicate k (.proceed i x)).foldl act s).tasks[j]? = s.tasks[j]? := by
  induction p generalizing s with
  | done a => exact ⟨0, a, hi, fun _ _ => rfl⟩
  | step c next ih =>
    obtain ⟨r, w', hw⟩ := hr o _ c (h.rests i o _ hi).1 s.world
    have hstep := proceed_eq hi hw
    have hlt := (List.getElem?_eq_some_iff.mp hi).1
    obtain ⟨k, a, hdone, hother⟩ := ih r (h.proceed i x) (by rw [hstep]; simp [hlt])
    refine ⟨k + 1, a, hdone, fun j hij => ?_⟩
    have hset : (proceed s i x).tasks[j]? = s.tasks[j]? := by
      rw [hstep]
      exact List.getElem?_set_ne hij
    exact (hother j hij).trans hset
  | overflow => exact (h.rests i o _ hi).elim

/-- Every task has come to its end. -/
def Ended (s : S.State) : Prop :=
  ∀ (i : Nat) (t : S.Task), s.tasks[i]? = some t → ∃ a, t.rest = some (.done a)

theorem exists_ended_below {w₀ : World} (x : Surroundings)
    (hr : ∀ o past c, rule o past c → ∀ w, ∃ r w', World.perform (S.view x) w c = some (r, w'))
    {s : S.State} (h : Keeps rule ends w₀ s) (ha : Alive s) (n : Nat) :
    ∃ more : List S.Move, (∀ m ∈ more, ∃ i, m = .proceed i x) ∧
      (∀ i, n ≤ i → (more.foldl act s).tasks[i]? = s.tasks[i]?) ∧
      ∀ i < n, ∀ t, (more.foldl act s).tasks[i]? = some t → ∃ a, t.rest = some (.done a) := by
  induction n with
  | zero => exact ⟨[], by simp, fun _ _ => rfl, fun i hi => absurd hi (Nat.not_lt_zero i)⟩
  | succ n ih =>
    obtain ⟨more, hmore, hlater, hended⟩ := ih
    cases hn : s.tasks[n]? with
    | none =>
      refine ⟨more, hmore, fun i hi => hlater i (by omega), fun i hi t ht => ?_⟩
      by_cases hin : i = n
      · subst hin
        rw [hlater i (Nat.le_refl i), hn] at ht
        cases ht
      · exact hended i (by omega) t ht
    | some t =>
      obtain ⟨o, rest⟩ := t
      cases rest with
      | none => cases ha n _ hn
      | some p =>
        obtain ⟨k, a, hdone, hother⟩ :=
          exists_finished hr p (h.proceeds hmore) ((hlater n (Nat.le_refl n)).trans hn)
        refine ⟨more ++ List.replicate k (.proceed n x), fun m hm => ?_, fun i hi => ?_,
          fun i hi t ht => ?_⟩
        · rcases List.mem_append.mp hm with hm | hm
          · exact hmore m hm
          · exact ⟨n, List.eq_of_mem_replicate hm⟩
        · rw [List.foldl_append, hother i (by omega)]
          exact hlater i (by omega)
        · rw [List.foldl_append] at ht
          by_cases hin : n = i
          · subst hin
            rw [hdone] at ht
            cases ht
            exact ⟨a, rfl⟩
          · rw [hother i hin] at ht
            exact hended i (by omega) t ht

/-- All tasks can be run to their ends, one after the other. -/
theorem exists_ended {w₀ : World} (x : Surroundings)
    (hr : ∀ o past c, rule o past c → ∀ w, ∃ r w', World.perform (S.view x) w c = some (r, w'))
    {s : S.State} (h : Keeps rule ends w₀ s) (ha : Alive s) :
    ∃ more : List S.Move, (∀ m ∈ more, ∃ i, m = .proceed i x) ∧ Ended (more.foldl act s) := by
  obtain ⟨more, hmore, hlater, hended⟩ := exists_ended_below x hr h ha s.tasks.length
  refine ⟨more, hmore, fun i t ht => ?_⟩
  by_cases hi : i < s.tasks.length
  · exact hended i hi t ht
  · rw [hlater i (by omega), List.getElem?_eq_none (by omega)] at ht
    cases ht

end End

end Pool
end AccessGrants
