import AccessGrants.Proofs.Concurrency.Lasting

/-!
# AccessGrants.Proofs.Concurrency.Since

What came in between. A log is looked at from one of its entries on: how the store stood then, and
which call has changed it since.

* `past_split`       — where an exchange of a task stands in the log.
* `Trace.newest`     — the store has answered the newest entry, and is what this left.
* `Trace.since`      — what holds now has held at an earlier point of the log, or a later entry has
                       brought it about.
* `exists_performs`  — the move of a run behind an entry of its log.
-/

namespace AccessGrants
namespace Pool

variable {S : Pool} {rule : S.Op → Past → Call → Prop} {w₀ w : World}
  {log newer older : List S.Entry}

theorem past_append (i : Nat) : past (newer ++ older) i = past newer i ++ past older i :=
  List.filterMap_append

theorem past_split {i : Nat} {after before : Past} {ex : Exchange Call.Reply}
    (h : past log i = after ++ ex :: before) :
    ∃ newer o older, log = newer ++ ⟨i, o, ex⟩ :: older ∧ past newer i = after ∧
      past older i = before := by
  obtain ⟨newer, rest, rfl, hnewer, hrest⟩ := List.filterMap_eq_append_iff.mp h
  obtain ⟨others, e, older, rfl, hothers, he, holder⟩ := List.filterMap_eq_cons_iff.mp hrest
  obtain ⟨rfl, rfl⟩ : e.task = i ∧ e.exchange = ex := by simpa using he
  refine ⟨newer ++ others, e.op, older, by simp, ?_, holder⟩
  rw [past_append, past, past, hnewer, List.filterMap_eq_nil_iff.mpr hothers, List.append_nil]

theorem Trace.rule_of_mem (h : Trace rule w₀ w log) {e : S.Entry} (he : e ∈ log) :
    ∃ past, rule e.op past e.exchange.call := by
  obtain ⟨newer, older, hlog⟩ := List.append_of_mem he
  obtain ⟨-, -, hc, -⟩ := h.at_call hlog
  exact ⟨_, hc⟩

theorem Trace.at_store (h : Trace rule w₀ w log) {i : Nat} {o : S.Op} {c : StoreCall} {r : c.Reply}
    (hlog : log = newer ++ ⟨i, o, .resource (.store c), some r⟩ :: older) :
    ∃ w₁, Trace rule w₀ w₁ older ∧ r = (w₁.store.perform c).1 := by
  obtain ⟨w₁, ht, -, hw⟩ := h.at_call hlog
  obtain ⟨x, w₂, hw⟩ := hw r rfl
  injection hw with hw
  exact ⟨w₁, ht, (congrArg Prod.fst hw).symm⟩

/-- The store has answered the newest entry, and is what this left. -/
theorem Trace.newest {i : Nat} {o : S.Op} {c : StoreCall} {r : c.Reply}
    (h : Trace rule w₀ w log)
    (hlog : log = ⟨i, o, .resource (.store c), some r⟩ :: older) :
    ∃ s : MemoryStore, r = (s.perform c).1 ∧ w.store = (s.perform c).2 := by
  induction h with
  | init => cases hlog
  | clock t _ ih => exact ih hlog
  | @answered w₁ _ _ _ _ _ _ _ _ _ _ hw =>
    cases hlog
    injection hw with hw
    exact ⟨w₁.store, (congrArg Prod.fst hw).symm, (congrArg (·.2.store) hw).symm⟩
  | lost => cases hlog

/-- What holds of the store now has held of it at an earlier point of the log, or the store has
brought it about by answering a later entry. -/
theorem Trace.since (P : MemoryStore → Prop) (h : Trace rule w₀ w log) (hlog : log = newer ++ older)
    (hP : P w.store) :
    (∃ w₁, Trace rule w₀ w₁ older ∧ P w₁.store) ∨
      ∃ e ∈ newer, ∃ (c : StoreCall) (s : MemoryStore),
        e.exchange = ⟨.resource (.store c), some (s.perform c).1⟩ ∧ ¬ P s ∧ P (s.perform c).2 := by
  induction h generalizing newer with
  | init =>
    obtain ⟨rfl, rfl⟩ := List.nil_eq_append_iff.mp hlog
    exact .inl ⟨w₀, .init, hP⟩
  | clock t _ ih => exact ih hlog hP
  | @answered w₁ w' log x i o c r ht ho hc hw ih =>
    cases newer with
    | nil =>
      obtain rfl : _ = older := hlog
      exact .inl ⟨w', .answered ht ho hc hw, hP⟩
    | cons e newer =>
      obtain ⟨rfl, rfl⟩ := List.cons.inj hlog
      by_cases hbefore : P w₁.store
      · refine (ih rfl hbefore).imp_right ?_
        rintro ⟨e, he, hcause⟩
        exact ⟨e, List.mem_cons_of_mem _ he, hcause⟩
      · rcases World.perform_store hw with ⟨c, rfl⟩ | ⟨hs, -⟩
        · cases hw
          exact .inr ⟨_, List.mem_cons_self, c, w₁.store, rfl, hbefore, hP⟩
        · exact absurd (hs ▸ hP) hbefore
  | @lost w log i o c ht ho hc ih =>
    cases newer with
    | nil =>
      obtain rfl : _ = older := hlog
      exact .inl ⟨w, .lost ht ho hc, hP⟩
    | cons e newer =>
      obtain ⟨rfl, rfl⟩ := List.cons.inj hlog
      refine (ih rfl hP).imp_right ?_
      rintro ⟨e, he, hcause⟩
      exact ⟨e, List.mem_cons_of_mem _ he, hcause⟩

theorem Trace.suffix (h : Trace rule w₀ w log) (hs : older <:+ log) :
    ∃ w₁, Trace rule w₀ w₁ older := by
  obtain ⟨newer, hlog⟩ := hs
  rcases h.since (fun _ => True) hlog.symm trivial with ⟨w₁, ht, -⟩ | ⟨_, _, _, _, _, hn, -⟩
  · exact ⟨w₁, ht⟩
  · exact absurd trivial hn

theorem Trace.invariant {P : MemoryStore → Prop} (h₀ : P w₀.store)
    (step : ∀ s c, P s → P (s.perform c).2) (h : Trace rule w₀ w log) : P w.store := by
  induction h with
  | init => exact h₀
  | clock t _ ih => exact ih
  | lost _ _ _ ih => exact ih
  | answered _ _ _ hw ih =>
    rcases World.perform_store hw with ⟨c, rfl⟩ | ⟨hs, -⟩
    · cases hw
      exact step _ c ih
    · exact hs ▸ ih

/-! ## The moves of a run -/

theorem log_act (s : S.State) (m : S.Move) :
    (act s m).log = s.log ∨
    ∃ i x o c next, m = .proceed i x ∧ s.tasks[i]? = some ⟨o, some (.step c next)⟩ ∧
      (act s m).log = ⟨i, o, c, (s.world.perform (S.view x) c).map (·.1)⟩ :: s.log := by
  cases m with
  | start o => exact .inl rfl
  | clock t => exact .inl rfl
  | proceed i x =>
    simp only [act, proceed]
    split
    · rename_i o c next hi
      refine .inr ⟨i, x, o, c, next, rfl, hi, ?_⟩
      split
      · rename_i r w hw
        rw [hw]
        rfl
      · rename_i hw
        rw [hw]
        rfl
    · exact .inl rfl

/-- A move makes a call of a task, and this is the entry for it. -/
def Performs (s : S.State) (m : S.Move) (e : S.Entry) : Prop :=
  ∃ x, m = .proceed e.task x ∧ pending s e.task = some e.exchange.call ∧
    e.exchange.reply = (s.world.perform (S.view x) e.exchange.call).map (·.1)

theorem performs_of_mem_log {s : S.State} {m : S.Move} {e : S.Entry} (he : e ∈ (act s m).log) :
    e ∈ s.log ∨ Performs s m e := by
  rcases log_act s m with hlog | ⟨i, x, o, c, next, rfl, hi, hlog⟩
  · rw [hlog] at he
    exact .inl he
  · rw [hlog] at he
    rcases List.mem_cons.mp he with rfl | he
    · exact .inr ⟨x, rfl, pending_eq_some.mpr ⟨o, next, hi⟩, rfl⟩
    · exact .inl he

/-- The move of a run behind an entry of its log. -/
theorem exists_performs {moves : List S.Move} {n : Nat} {e : S.Entry}
    (he : e ∈ (run w₀ (moves.take n)).log) :
    ∃ k < n, ∃ m, moves[k]? = some m ∧ Performs (run w₀ (moves.take k)) m e := by
  induction n with
  | zero => cases he
  | succ n ih =>
    have cause : e ∈ (run w₀ (moves.take n)).log ∨
        ∃ m, moves[n]? = some m ∧ Performs (run w₀ (moves.take n)) m e := by
      cases hm : moves[n]? with
      | none =>
        have hlen : moves.length ≤ n := List.getElem?_eq_none_iff.mp hm
        rw [List.take_of_length_le (Nat.le_succ_of_le hlen)] at he
        rw [List.take_of_length_le hlen]
        exact .inl he
      | some m =>
        rw [run_take_succ w₀ hm] at he
        exact (performs_of_mem_log he).imp_right fun h => ⟨m, rfl, h⟩
    rcases cause with he | hnow
    · obtain ⟨k, hk, h⟩ := ih he
      exact ⟨k, Nat.lt_succ_of_lt hk, h⟩
    · exact ⟨n, Nat.lt_succ_self n, hnow⟩

/-- An answer that the store has given to a task was given as the store stood at one of the moves. -/
theorem exists_answered {moves : List S.Move} {n i : Nat} {c : StoreCall} {r : c.Reply}
    (h : ⟨.resource (.store c), some r⟩ ∈ past (run w₀ (moves.take n)).log i) :
    ∃ k < n, ∃ x, moves[k]? = some (.proceed i x) ∧
      pending (run w₀ (moves.take k)) i = some (.resource (.store c)) ∧
      r = ((run w₀ (moves.take k)).world.store.perform c).1 := by
  obtain ⟨⟨j, o, ex⟩, he, rfl, rfl⟩ := mem_past.mp h
  obtain ⟨k, hk, m, hm, x, rfl, hp, hr⟩ := exists_performs he
  exact ⟨k, hk, x, hm, hp, Option.some.inj hr⟩

theorem lt_length_of_pending {s : S.State} {i : Nat} {c : Call} (h : pending s i = some c) :
    i < s.tasks.length := by
  obtain ⟨o, next, hi⟩ := pending_eq_some.mp h
  exact (List.getElem?_eq_some_iff.mp hi).1

end Pool
end AccessGrants
