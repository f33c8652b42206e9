import AccessGrants.Proofs.Alone.Grades
import AccessGrants.Proofs.Alone.Session
import AccessGrants.Proofs.Concurrency.Handlers
import Mathlib.Data.List.Forall2

/-!
# AccessGrants.Proofs.Alone.Unheard

Operations that do not listen to what becomes of their events.

* `Interaction.Deaf`   — after an event the program goes on in the same way, whether it has arrived.
* `finish_unheard`     — so its result and the store do not depend on that.
* `Service.Deaf`       — the same of operations. There is one rule for each way to build one.
* `Turn.heardBy`       — a turn with another receiver of the events.
* `answers_unheard`    — sessions that differ only in the receivers.
-/

namespace AccessGrants

/-- The moment with another receiver of the events. -/
def Moment.heardBy (receiver : AccessEvent → Except String Unit) (m : Moment) : Moment :=
  { m with surroundings := { m.surroundings with events := receiver } }

namespace MemoryStore

theorem answer_emit {m : Moment} {s : MemoryStore} {event : AccessEvent} :
    s.answer m (.resource (.emit event)) = some (m.surroundings.events event, s) := rfl

/-- Only events ask the receiver of events. -/
theorem answer_heardBy (receiver : AccessEvent → Except String Unit) (m : Moment) (s : MemoryStore)
    {c : Call} (hc : c.isEmit = false) : s.answer (m.heardBy receiver) c = s.answer m c := by
  cases c with
  | resource q =>
    cases q with
    | emit event => cases hc
    | _ => rfl
  | _ => rfl

end MemoryStore

namespace Interaction

/-- After an event the program goes on in the same way, whatever becomes of the event. -/
def Deaf : Proc α → Prop
  | done _ => True
  | step c next => (c.isEmit = true → ∀ r r', next r = next r') ∧ ∀ r, (next r).Deaf
  | overflow => True

theorem Deaf.bind {p : Proc α} {f : α → Proc β} (hp : p.Deaf) (hf : ∀ a, (f a).Deaf) :
    (p >>= f).Deaf := by
  induction p with
  | done a => exact hf a
  | step c next ih =>
    exact ⟨fun hc r r' => congrArg (· >>= f) (hp.1 hc r r'), fun r => ih r (hp.2 r)⟩
  | overflow => trivial

theorem finish_unheard {p : Proc α} (hp : p.Deaf) (moments : Nat → Moment)
    (receivers : Nat → AccessEvent → Except String Unit) {s s' : Session}
    (hs : s'.store = s.store) :
    (p.finish (fun n => (moments n).heardBy (receivers n)) s').1 = (p.finish moments s).1 ∧
      (p.finish (fun n => (moments n).heardBy (receivers n)) s').2.store =
        (p.finish moments s).2.store := by
  induction p generalizing moments receivers s s' with
  | done a => exact ⟨rfl, hs⟩
  | overflow => exact ⟨rfl, hs⟩
  | step c next ih =>
    rw [finish, finish, hs]
    by_cases hc : c.isEmit = true
    · cases c with
      | resource q =>
        cases q with
        | emit event =>
          have hsame := hp.1 rfl (receivers 0 event) ((moments 0).surroundings.events event)
          rw [MemoryStore.answer_emit, MemoryStore.answer_emit]
          dsimp only [Moment.heardBy]
          rw [hsame]
          exact ih _ (hp.2 _) (fun n => moments (n + 1)) (fun n => receivers (n + 1)) rfl
        | _ => cases hc
      | _ => cases hc
    · rw [MemoryStore.answer_heardBy _ _ _ (Bool.eq_false_iff.mpr hc)]
      cases s.store.answer (moments 0) c with
      | none => exact ⟨rfl, rfl⟩
      | some reply =>
        exact ih _ (hp.2 reply.1) (fun n => moments (n + 1)) (fun n => receivers (n + 1)) rfl

end Interaction

namespace Service

/-- Whatever becomes of its events, the operation goes on in the same way. -/
def Deaf (p : Service α) : Prop :=
  p.run.Deaf

theorem deaf_pure (a : α) : Deaf (pure a : Service α) := trivial

theorem deaf_throw (e : ServiceError) : Deaf (throw e : Service α) := trivial

theorem Deaf.bind {p : Service α} {f : α → Service β} (hp : p.Deaf) (hf : ∀ a, (f a).Deaf) :
    (p >>= f).Deaf := by
  refine Interaction.Deaf.bind hp fun r => ?_
  cases r with
  | ok a => exact hf a
  | error e => trivial

theorem deaf_emit (event : AccessEvent) : (emit event).Deaf :=
  ⟨fun _ _ _ => rfl, fun _ => trivial⟩

theorem Within.deaf {p : Service α} (h : p.Within fun c => !c.isEmit) : p.Deaf := by
  have tree : ∀ (q : Proc (Except ServiceError α)) (past : Past), Service.Obeys (ExceptT.mk q)
      (fun _ c => !c.isEmit) (fun _ _ => True) (fun _ _ => True) past → q.Deaf := by
    intro q
    induction q with
    | done r => exact fun _ _ => trivial
    | step c next ih =>
      intro past h
      have hc : c.isEmit = false := by simpa using h.1
      refine ⟨fun hemit => ?_, fun r => ih r _ (h.2 r)⟩
      rw [hc] at hemit
      cases hemit
    | overflow => exact fun _ h => h.elim
  exact tree p.run [] (h [])

/-- A handler that is deaf itself and leaves events alone. -/
theorem Deaf.via {handle : (c : Call) → Service c.Reply} (hkeeps : Keeps handle)
    (hh : ∀ c, c.isEmit = false → (handle c).Deaf) {p : Service α} (hp : p.Deaf) :
    (p.via handle).Deaf := by
  have tree : ∀ q : Proc (Except ServiceError α), q.Deaf →
      (Service.via handle (ExceptT.mk q)).Deaf := by
    intro q
    induction q with
    | done r =>
      intro _
      cases r with
      | ok a => trivial
      | error e => trivial
    | step c next ih =>
      intro hq
      rw [via_step]
      by_cases hc : c.isEmit = true
      · cases c with
        | resource q =>
          cases q with
          | emit event =>
            rw [hkeeps]
            exact ⟨fun _ r r' => congrArg (fun q => (Service.via handle (ExceptT.mk q)).run) (hq.1 rfl r r'),
              fun r => ih r (hq.2 r)⟩
          | _ => cases hc
        | _ => cases hc
      · exact (hh c (Bool.eq_false_iff.mpr hc)).bind fun r => ih r (hq.2 r)
    | overflow => exact fun _ => trivial
  exact tree p.run hp

end Service

/-- The turn with other receivers of its events, one for each call. -/
def Turn.heardBy {Op : Type} (receivers : Nat → AccessEvent → Except String Unit) (t : Turn Op) :
    Turn Op :=
  { t with moments := fun n => (t.moments n).heardBy (receivers n) }

namespace Session

variable {Op : Type} {Result : Op → Type} {program : (o : Op) → Service (Result o)}

/-- What is answered in all turns. -/
def answers (program : (o : Op) → Service (Result o)) :
    Session → List (Turn Op) → List ((o : Op) × Option (Except ServiceError (Result o)))
  | _, [] => []
  | s, t :: rest => ⟨t.op, (s.serve program t).1⟩ :: answers program (s.serve program t).2 rest

/-- Sessions whose turns differ only in the receivers of their events have the same answers, and the
same is stored after them. -/
theorem answers_unheard (hdeaf : ∀ o, (program o).Deaf) {turns turns' : List (Turn Op)}
    (hturns : List.Forall₂ (fun t t' => ∃ receivers, t' = t.heardBy receivers) turns turns')
    {s s' : Session} (hs : s'.store = s.store) :
    answers program s' turns' = answers program s turns ∧
      (s'.after program turns').store = (s.after program turns).store := by
  induction hturns generalizing s s' with
  | nil => exact ⟨rfl, hs⟩
  | @cons t t' rest rest' ht _ ih =>
    obtain ⟨receivers, rfl⟩ := ht
    obtain ⟨hanswer, hstore⟩ := Interaction.finish_unheard (hdeaf t.op) t.moments receivers hs
    have hserve : (s'.serve program (t.heardBy receivers)).1 = (s.serve program t).1 := hanswer
    have hlater : (s'.serve program (t.heardBy receivers)).2.store = (s.serve program t).2.store := hstore
    obtain ⟨hrest, hlast⟩ := ih hlater
    refine ⟨?_, hlast⟩
    rw [answers, answers, hrest]
    exact congrArg (fun answer : Option (Except ServiceError (Result t.op)) =>
      (⟨t.op, answer⟩ : (o : Op) × Option (Except ServiceError (Result o))) :: _) hserve

end Session
end AccessGrants
