import AccessGrants.Proofs.Bindings.Conduct
import AccessGrants.Proofs.Store.Rows

/-!
# AccessGrants.Proofs.Bindings.Registration

A registration takes three rounds at most and writes once at most. It gives up only when the binding
of its deployment has changed in each of the rounds, and that is the work of other calls.

* `allows_eq`           — whether a guard lets a write through depends on the assignment alone.
* `perform_allows`      — so only a new binding of the deployment makes a guard miss.
* `Rebinds`, `Contended` — a successful link or unlink of a deployment; rounds in each of which there
                          was one.
* `contended_of_refused` — a refused write is such a round.
* `counts_of_kept`      — how often a registration reads and writes.
* `act_registration`    — what one of its moves does to the store.
* `run_registration`    — what follows for every registration of a run from an empty store.
-/

namespace AccessGrants
namespace MemoryStore

/-- Whether a guard lets a write through depends on the assignment of the stored deployment alone. -/
theorem allows_eq (guard : AssignmentGuard) (stored : Option Deployment) :
    allows guard stored = match guard with
      | .any => true
      | .unassigned => (stored.bind (·.assignment)).isNone
      | .assignedTo g => (stored.bind (·.assignment)).any fun a => a.targetGroupId = g := by
  cases guard with
  | any => rfl
  | unassigned => cases stored <;> simp [allows, Deployment.isAssigned]
  | assignedTo g => cases stored <;> rfl

theorem perform_allows {s : MemoryStore} {c : StoreCall} {id : String} {guard : AssignmentGuard}
    (hbefore : allows guard s.deployments[id]? = true)
    (hafter : allows guard (s.perform c).2.deployments[id]? = false) :
    (∃ p a, c = .assignDeployment id p a) ∨ ∃ g, c = .clearAssignment id g := by
  refine perform_assignmentOf_ne (s := s) fun hsame => ?_
  have hsame : (s.perform c).2.deployments[id]?.bind (·.assignment) =
      s.deployments[id]?.bind (·.assignment) := hsame
  rw [allows_eq, hsame, ← allows_eq, hbefore] at hafter
  cases hafter

end MemoryStore

open Exchange Operation

namespace Pool

section Registrations

variable {rules : ServiceRules} {view : Surroundings → Surroundings} {w₀ w : World}
  {s : (services rules view).State} {log : List (services rules view).Entry}

/-- A successful link or unlink of the deployment. -/
def Rebinds (id : String) (e : (services rules view).Entry) : Prop :=
  (∃ priority p a, e.op = .linkDeployment a.targetGroupId id priority ∧
    wrote? e.exchange = some (.assignDeployment id p a)) ∨
  ∃ g, e.op = .unlinkDeployment g id ∧ wrote? e.exchange = some (.clearAssignment id g)

/-- The last rounds of a registration, newest first, were all refused, and in each of them another
call has rebound the deployment between the read and the write. -/
def Contended (i : Nat) (d : Deployment) : Nat → List (services rules view).Entry → Prop
  | 0, _ => True
  | n + 1, log => ∃ newer guard between read older,
      log = newer ++
        ⟨i, .registerDeployment d, .resource (.store (.upsertDeployment d guard)),
          some (.error .conditionFailed)⟩ ::
        (between ++
          ⟨i, .registerDeployment d, .resource (.store (.getDeployment d.id)), some (.ok read)⟩ ::
          older) ∧
      (∀ e ∈ between, e.task = i → e.exchange.call.checksGroup = true) ∧
      (∃ e ∈ between, e.task ≠ i ∧ Rebinds d.id e) ∧
      Contended i d n older

theorem Trace.found_keyed (h₀ : w₀.store.Filed)
    (h : Trace (S := services rules view) (conduct rules) w₀ w log) {i : Nat}
    {key : String} {group : TargetGroup} (hf : (key, group) ∈ told groupFound? (past log i)) :
    group.id = key := by
  obtain ⟨ex, hex, hfound⟩ := List.mem_filterMap.mp hf
  obtain ⟨⟨j, o, ex⟩, he, -, rfl⟩ := mem_past.mp hex
  obtain rfl := groupFound?_eq_some hfound
  obtain ⟨newer, older, hlog⟩ := List.append_of_mem he
  obtain ⟨w₁, ht, hr⟩ := h.at_store hlog
  have hfiled : w₁.store.Filed := ht.invariant h₀ fun _ c h => h.perform c
  exact hfiled.targetGroups key group (Except.ok.inj hr).symm

theorem Trace.warranted (h₀ : w₀.store.Filed)
    (h : Trace (S := services rules view) (conduct rules) w₀ w log) {i : Nat}
    {read : Option Deployment} {older checks : Past} {guard : AssignmentGuard}
    (hpast : past log i = checks ++ older)
    (hw : Warrants rules.schemaValidation read checks guard) :
    MemoryStore.allows guard read = true := by
  cases guard with
  | any => rfl
  | unassigned =>
    obtain ⟨-, hfree⟩ := hw
    rw [MemoryStore.allows_eq]
    exact Option.isNone_iff_eq_none.mpr hfree
  | assignedTo g =>
    obtain ⟨-, a, group, ha, hfound, rfl⟩ := hw
    have hkey : group.id = a.targetGroupId := by
      refine h.found_keyed h₀ (i := i) ?_
      rw [hpast, told, List.filterMap_append]
      exact List.mem_append_left _ hfound
    rw [MemoryStore.allows_eq, ha]
    exact decide_eq_true hkey.symm

/-- Between the read and the refused write of a round another call has rebound the deployment. -/
theorem Trace.contended_round (h₀ : w₀.store.Filed)
    (h : Trace (S := services rules view) (conduct rules) w₀ w log) {i : Nat} {d : Deployment}
    {o o' : Operation} {guard : AssignmentGuard} {read : Option Deployment} {checks : Past}
    {newer between older : List (services rules view).Entry}
    (hlog : log = newer ++
      ⟨i, o, .resource (.store (.upsertDeployment d guard)), some (.error .conditionFailed)⟩ ::
      (between ++
        ⟨i, o', .resource (.store (.getDeployment d.id)), some (.ok read)⟩ :: older))
    (hbetween : past between i = checks)
    (hw : Warrants rules.schemaValidation read checks guard) :
    rules.schemaValidation = .enforced ∧ ∃ e ∈ between, Rebinds d.id e := by
  obtain ⟨w₁, ht, hr⟩ := h.at_store hlog
  have hmissed : MemoryStore.allows guard w₁.store.deployments[d.id]? = false := by
    simp only [MemoryStore.perform, MemoryStore.upsertDeployment] at hr
    split at hr
    · cases hr
    · rename_i hmissed
      exact Bool.eq_false_iff.mpr hmissed
  have hread : MemoryStore.allows guard read = true :=
    ht.warranted h₀ (by rw [past_append, hbetween]) hw
  refine ⟨?_, ?_⟩
  · cases guard with
    | any => cases hread.symm.trans hmissed
    | unassigned => exact hw.1
    | assignedTo g => exact hw.1
  · rcases ht.since (fun s => MemoryStore.allows guard s.deployments[d.id]? = false) rfl hmissed with
      ⟨w₂, ht₂, hthen⟩ | ⟨e, he, c, s, hex, hbefore, hafter⟩
    · rw [ht₂.deployment_read, hread] at hthen
      cases hthen
    · refine ⟨e, he, ?_⟩
      obtain ⟨past, hstep⟩ := ht.rule_of_mem (List.mem_append_left _ he)
      have hwrote : wrote? e.exchange = some c := by
        rw [hex]
        exact MemoryStore.wrote_of_perform_ne fun hs => hbefore (hs ▸ hafter)
      rw [hex] at hstep
      rcases MemoryStore.perform_allows (Bool.not_eq_false _ ▸ hbefore) hafter with
        ⟨p, a, rfl⟩ | ⟨g, rfl⟩
      · obtain ⟨priority, hop⟩ := conduct_assign hstep
        exact .inl ⟨priority, p, a, hop, hwrote⟩
      · exact .inr ⟨g, conduct_clear hstep, hwrote⟩

theorem contended_of_refused (h₀ : w₀.store.Filed) {n : Nat} {i : Nat} {d : Deployment}
    {past' : Past} (hr : Refused rules.schemaValidation d n past')
    (h : Trace (S := services rules view) (conduct rules) w₀ w log) (hpast : past log i = past')
    (hop : ∀ e ∈ log, e.task = i → e.op = .registerDeployment d) :
    Contended i d n log ∧ (0 < n → rules.schemaValidation = .enforced) := by
  induction hr generalizing w log with
  | none => exact ⟨trivial, fun h => absurd h (Nat.lt_irrefl 0)⟩
  | @round n pastRound olderPast checks read guard hr hround hw ih =>
    obtain ⟨newer, o, rest, rfl, -, hrest⟩ :=
      past_split (show past log i = [] ++ _ :: _ from hpast)
    rw [hround.past_eq] at hrest
    obtain ⟨between, o', older, rfl, hbetween, holder⟩ := past_split hrest
    obtain ⟨henforced, e, he, hrebinds⟩ := h.contended_round h₀ rfl hbetween hw
    obtain rfl : o = .registerDeployment d :=
      hop _ (List.mem_append_right _ List.mem_cons_self) rfl
    obtain rfl : o' = .registerDeployment d :=
      hop _ (List.mem_append_right _
        (List.mem_cons_of_mem _ (List.mem_append_right _ List.mem_cons_self))) rfl
    have hsuffix : older <:+ newer ++
        ⟨i, .registerDeployment d, .resource (.store (.upsertDeployment d guard)),
          some (.error .conditionFailed)⟩ :: (between ++
            ⟨i, .registerDeployment d, .resource (.store (.getDeployment d.id)),
              some (.ok read)⟩ :: older) :=
      ((List.suffix_cons _ _).trans (List.suffix_append _ _)).trans
        ((List.suffix_cons _ _).trans (List.suffix_append _ _))
    obtain ⟨w₁, ht⟩ := h.suffix hsuffix
    obtain ⟨hcontended, -⟩ := ih ht holder fun e he => hop e (hsuffix.subset he)
    refine ⟨⟨newer, guard, between, read, older, rfl, fun e he htask => ?_,
      ⟨e, he, fun htask => ?_, hrebinds⟩, hcontended⟩, fun _ => henforced⟩
    · refine hround.checks_only e.exchange ?_
      rw [← hbetween]
      exact mem_past.mpr ⟨e, he, htask, rfl⟩
    · have hregister := hop e (by simp [he]) htask
      rcases hrebinds with ⟨priority, p, a, hlink, -⟩ | ⟨g, hunlink, -⟩
      · cases hregister.symm.trans hlink
      · cases hregister.symm.trans hunlink

/-! ## What a registration does -/

/-- How often a past has read a deployment. -/
def readings (past : Past) : Nat :=
  past.countP fun ex => ex.call.readsDeployment

/-- How often a past has tried to write a deployment. -/
def attempts (past : Past) : Nat :=
  past.countP fun ex => ex.call.writesDeployment

theorem readings_cons (ex : Exchange Call.Reply) (past : Past) :
    readings (ex :: past) = readings past + if ex.call.readsDeployment then 1 else 0 :=
  List.countP_cons

theorem attempts_cons (ex : Exchange Call.Reply) (past : Past) :
    attempts (ex :: past) = attempts past + if ex.call.writesDeployment then 1 else 0 :=
  List.countP_cons

section Counts

variable {validation : SchemaValidation} {d : Deployment} {past older checks : Past}
  {read : Option Deployment} {n : Nat}

theorem not_read_or_write_of_checksGroup {c : Call} (h : c.checksGroup = true) :
    c.readsDeployment = false ∧ c.writesDeployment = false := by
  cases c with
  | resource r =>
    cases r with
    | store c => cases c <;> first | exact ⟨rfl, rfl⟩ | cases h
    | _ => exact ⟨rfl, rfl⟩
  | _ => cases h

theorem counts_of_checks (h : ∀ ex ∈ checks, ex.call.checksGroup = true) :
    readings (checks ++ past) = readings past ∧ attempts (checks ++ past) = attempts past := by
  induction checks with
  | nil => exact ⟨rfl, rfl⟩
  | cons ex checks ih =>
    obtain ⟨hex, hrest⟩ := List.forall_mem_cons.mp h
    obtain ⟨hr, hw⟩ := not_read_or_write_of_checksGroup hex
    rw [List.cons_append, readings_cons, attempts_cons, hr, hw]
    exact ih hrest

theorem counts_of_round (h : Round d past older read checks) :
    readings past = readings older + 1 ∧ attempts past = attempts older := by
  obtain ⟨hr, hw⟩ := counts_of_checks h.checks_only
  rw [h.past_eq]
  exact ⟨hr.trans (readings_cons _ _), hw.trans (attempts_cons _ _)⟩

theorem counts_of_refused (h : Refused validation d n past) :
    readings past = n ∧ attempts past = n := by
  induction h with
  | none => exact ⟨rfl, rfl⟩
  | round _ hround _ ih =>
    obtain ⟨hr, hw⟩ := counts_of_round hround
    rw [readings_cons, attempts_cons, hr, hw, ih.1, ih.2]
    exact ⟨rfl, rfl⟩

theorem counts_of_kept (h : Interaction.Kept (registrationStep validation d) past) :
    attempts past ≤ readings past ∧ readings past ≤ 3 := by
  cases past with
  | nil => exact ⟨Nat.le_refl 0, Nat.zero_le 3⟩
  | cons ex past =>
    obtain ⟨⟨n, hn, older, hr, hstep⟩, -⟩ := h
    have hn : n < 3 := hn
    obtain ⟨hreads, hwrites⟩ := counts_of_refused hr
    rw [readings_cons, attempts_cons]
    rcases hstep with ⟨rfl, hcall⟩ | ⟨read, checks, hround, hcall⟩
    · rw [hcall, hreads, hwrites]
      exact ⟨Nat.le_succ n, hn⟩
    · obtain ⟨hreads', hwrites'⟩ := counts_of_round hround
      rw [hreads', hwrites', hreads, hwrites]
      rcases hcall with hcheck | ⟨guard, hcall, -⟩
      · obtain ⟨hr', hw'⟩ := not_read_or_write_of_checksGroup hcheck
        rw [hr', hw']
        exact ⟨Nat.le_succ n, hn⟩
      · rw [hcall]
        exact ⟨Nat.le_refl (n + 1), hn⟩

end Counts

/-- What a move of a registration does to the store: nothing, or it writes the provider, the function
URL and the diagnostics of the deployment, under the assignment that is stored. -/
theorem act_registration (h : Keeps (S := services rules view) (conduct rules) (report rules) w₀ s)
    {i : Nat} {d : Deployment} {rest : Option (Proc (Except ServiceError Deployment))}
    (hi : s.tasks[i]? = some ⟨.registerDeployment d, rest⟩) (x : Surroundings) :
    (proceed s i x).world.store = s.world.store ∨
    (proceed s i x).world.store = { s.world.store with
      deployments := s.world.store.deployments.insert d.id
        { d with assignment := s.world.store.assignmentOf d.id } } := by
  rcases act_cases s (.proceed i x) with hs | ⟨j, x', o, c, next, r, hm, hi', hw⟩
  · exact .inl hs
  · cases hm
    rw [hi] at hi'
    cases hi'
    obtain ⟨hstep, -⟩ := h.rests i _ _ hi
    rcases World.perform_store hw with ⟨c, rfl⟩ | ⟨hs, -⟩
    · rw [proceed_store (pending_eq_some.mpr ⟨_, next, hi⟩)]
      rcases registrationStep_cases hstep with hlooks | ⟨guard, hcall⟩
      · exact .inl (MemoryStore.perform_of_looksUp hlooks).1
      · cases hcall
        simp only [MemoryStore.perform, MemoryStore.upsertDeployment]
        split
        · exact .inr rfl
        · exact .inl rfl
    · exact .inl hs

theorem contended_of_returned
    (h : Keeps (S := services rules view) (conduct rules) (report rules) w₀ s)
    (h₀ : w₀.store.Filed) {i : Nat} {d : Deployment}
    (hr : Returned s i (.registerDeployment d) (.error (.store .conditionFailed))) :
    rules.schemaValidation = .enforced ∧ Contended i d 3 s.log := by
  rcases (h.returned hr).2 rfl with hrefused | ⟨c, e, hlooks, herror⟩
  · obtain ⟨hcontended, henforced⟩ :=
      contended_of_refused h₀ hrefused h.trace rfl (h.same_op hr)
    exact ⟨henforced (by decide), hcontended⟩
  · -- the store answers every look-up
    obtain ⟨⟨j, o, ex⟩, he, -, rfl⟩ := mem_past.mp herror
    obtain ⟨newer, older, hlog⟩ := List.append_of_mem he
    obtain ⟨w₁, -, hanswer⟩ := h.trace.at_store hlog
    exact absurd hanswer.symm ((MemoryStore.perform_of_looksUp hlooks).2 e)

/-- However operations are interleaved over an empty store, and whatever they are answered, for every
registration: it has read its deployment three times at most, and has tried to write it no more often
than that. If it has returned a deployment, it has written once, and if it has failed, not at all. Each
of its moves leaves the store as it is, or writes the provider, the function URL and the diagnostics
of the deployment and keeps the assignment that is stored. It says that a condition failed only with
enforced validation, and only when in each of three rounds another call has linked or unlinked the
deployment between the read and the write. -/
theorem run_registration (rules : ServiceRules) (view : Surroundings → Surroundings) (pageSize : Nat)
    (clock : Instant) (moves : List (services rules view).Move) (n i : Nat) (d : Deployment) :
    let s := states pageSize clock moves n
    let done := past s.log i
    ∀ rest, s.tasks[i]? = some ⟨.registerDeployment d, rest⟩ →
      (attempts done ≤ readings done ∧ readings done ≤ 3) ∧
      (∀ stored, Returned s i (.registerDeployment d) (.ok stored) →
        ∃ guard, told wrote? done = [.upsertDeployment d guard]) ∧
      (∀ e, Returned s i (.registerDeployment d) (.error e) → told wrote? done = []) ∧
      (∀ x, (proceed s i x).world.store = s.world.store ∨
        (proceed s i x).world.store = { s.world.store with
          deployments := s.world.store.deployments.insert d.id
            { d with assignment := s.world.store.assignmentOf d.id } }) ∧
      (Returned s i (.registerDeployment d) (.error (.store .conditionFailed)) →
        rules.schemaValidation = .enforced ∧ Contended i d 3 s.log) := by
  intro s done rest hi
  have h : Keeps (S := services rules view) (conduct rules) (report rules)
      (World.fresh pageSize clock) s := services_conduct rules view _ (moves.take n)
  exact ⟨counts_of_kept (h.trace.kept (h.same_op hi)), fun stored hr => h.returned hr,
    fun e hr => (h.returned hr).1, act_registration h hi,
    contended_of_returned h (MemoryStore.empty_filed pageSize)⟩

end Registrations

/-! ## Three lost rounds -/

namespace Tug

variable {rules : ServiceRules} {view : Surroundings → Surroundings}

/-- The deployment and the error of a registration that has failed. -/
def failure? (t : (services rules view).Task) : Option (Deployment × ServiceError) :=
  match t with
  | ⟨.registerDeployment d, some (.done (.error e))⟩ => some (d, e)
  | _ => none

theorem returned_of_failure? {s : (services rules view).State} {i : Nat} {d : Deployment}
    {e : ServiceError} (h : s.tasks[i]?.bind failure? = some (d, e)) :
    Returned s i (.registerDeployment d) (.error e) := by
  obtain ⟨t, ht, hf⟩ := Option.bind_eq_some_iff.mp h
  unfold failure? at hf
  split at hf
  · cases hf
    exact ht
  · cases hf

def version (v : String) : Deployment := ⟨"d", ⟨"acme", "vault", v⟩, none, [], none⟩

/-- One call of a task, where all providers declare one schema. -/
def call (task : Nat) : (services ⟨.enforced, .standard⟩).Move :=
  .proceed task { Surroundings.plain with
    registry := fun provider => .ok ⟨200, some ⟨provider, .string "schema"⟩, ""⟩ }

/-- Version 1 of a deployment is to be replaced by version 2. In each round the deployment is linked
or unlinked between the read and the write. -/
def moves : List (services ⟨.enforced, .standard⟩).Move :=
  .start (Operation.createTargetGroup "g" "acme/vault@1") :: List.replicate 4 (call 0) ++
  .start (Operation.registerDeployment (version "1")) :: List.replicate 2 (call 1) ++
  [.start (Operation.registerDeployment (version "2")), call 2] ++
  .start (Operation.linkDeployment "g" "d" 0) :: List.replicate 5 (call 3) ++
  List.replicate 4 (call 2) ++
  [.start (Operation.unlinkDeployment "g" "d"), call 4] ++
  List.replicate 2 (call 2) ++
  .start (Operation.linkDeployment "g" "d" 0) :: List.replicate 5 (call 5) ++
  [call 2]

/-- The registration gives up, and has reason to. -/
theorem moves_contended :
    let s := states 50 ⟨0, 0⟩ moves 31
    Returned s 2 (.registerDeployment (version "2")) (.error (.store .conditionFailed)) ∧
    Contended 2 (version "2") 3 s.log := by
  have hr : Returned (states 50 ⟨0, 0⟩ moves 31) 2 (.registerDeployment (version "2"))
      (.error (.store .conditionFailed)) :=
    returned_of_failure? (by decide +kernel)
  obtain ⟨-, -, -, -, hcontended⟩ := run_registration _ _ 50 ⟨0, 0⟩ moves 31 2 (version "2") _ hr
  exact ⟨hr, (hcontended hr).2⟩

end Tug

end Pool
end AccessGrants
