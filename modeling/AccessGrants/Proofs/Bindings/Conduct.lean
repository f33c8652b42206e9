import AccessGrants.Proofs.Alone.Grades
import AccessGrants.Proofs.Bindings.WriteOnce
import AccessGrants.Proofs.Concurrency.Since

/-!
# AccessGrants.Proofs.Bindings.Conduct

What the operations on bindings have done when they make a call, and when they return. A registration
goes in rounds, a link reads and then writes once, and an unlink is one call.

* `Exchange.wrote?`     — the write that an exchange has made.
* `Warrants`            — a guard fits what was read in its round.
* `Refused`             — the past of a registration whose writes were all refused.
* `Named`               — where the target group of a refused link comes from.
* `Operation.conduct`, `Operation.report` — what the operations do, and what their results tell.
* `program_conduct`     — they do so, whatever they are answered.
* `conduct_assign`, `conduct_clear`, `conduct_upsert` — whose a write of a binding is.
-/

namespace AccessGrants

namespace Call

def readsDeployment : Call → Bool
  | resource (.store (.getDeployment _)) => true
  | _ => false

def writesDeployment : Call → Bool
  | resource (.store (.upsertDeployment _ _)) => true
  | _ => false

/-- What a registration does between its read and its write. -/
def checksGroup : Call → Bool
  | resource (.store (.getTargetGroup _)) | resource (.lookup _) => true
  | _ => false

/-- All that a registration does but write. -/
def looksUp (c : Call) : Bool :=
  c.readsDeployment || c.checksGroup

end Call

theorem MemoryStore.perform_of_looksUp {s : MemoryStore} {c : StoreCall}
    (h : (Call.resource (.store c)).looksUp = true) :
    (s.perform c).2 = s ∧ ∀ e, (s.perform c).1 ≠ .error e := by
  cases c <;> first | exact ⟨rfl, fun e he => by cases he⟩ | cases h

/-- The call by which an exchange has written to the store. -/
def Exchange.wrote? : Exchange Call.Reply → Option StoreCall
  | ⟨.resource (.store c), some (.ok _)⟩ => if c.isReading then none else some c
  | _ => none

theorem Exchange.wrote?_eq_some {ex : Exchange Call.Reply} {c : StoreCall}
    (h : wrote? ex = some c) : ex.call = .resource (.store c) := by
  unfold wrote? at h
  split at h
  · split at h
    · cases h
    · cases h
      rfl
  · cases h

theorem MemoryStore.wrote_of_perform_ne {s : MemoryStore} {c : StoreCall} (h : (s.perform c).2 ≠ s) :
    Exchange.wrote? ⟨.resource (.store c), some (s.perform c).1⟩ = some c := by
  have hwrites : c.isReading = false := by
    cases hc : c.isReading with
    | false => rfl
    | true => exact absurd (MemoryStore.perform_of_isReading hc) h
  cases hr : (s.perform c).1 with
  | error e => exact absurd (MemoryStore.perform_of_error hr) h
  | ok v => simp [Exchange.wrote?, hwrites]

open Exchange Interaction

namespace Operation

/-! ## Registrations -/

section Registration

variable (validation : SchemaValidation) (d : Deployment)

/-- A guard fits what was read, and what was found out since then. -/
def Warrants (read : Option Deployment) (checks : Past) : AssignmentGuard → Prop
  | .any => True
  | .unassigned => validation = .enforced ∧ read.bind (·.assignment) = none
  | .assignedTo g => validation = .enforced ∧ ∃ a group, read.bind (·.assignment) = some a ∧
      (a.targetGroupId, group) ∈ told groupFound? checks ∧ group.id = g

/-- A round that has come to its write: what was read, and the checks since then, newest first. -/
structure Round (past older : Past) (read : Option Deployment) (checks : Past) : Prop where
  past_eq : past = checks ++ ⟨.resource (.store (.getDeployment d.id)), some (.ok read)⟩ :: older
  checks_only : ∀ ex ∈ checks, ex.call.checksGroup = true

/-- Every round so far has ended with a refused write. -/
inductive Refused : Nat → Past → Prop
  | none : Refused 0 []
  | round {n : Nat} {past older checks : Past} {read : Option Deployment} {guard : AssignmentGuard} :
      Refused n older → Round d past older read checks → Warrants validation read checks guard →
      Refused (n + 1)
        (⟨.resource (.store (.upsertDeployment d guard)), some (.error .conditionFailed)⟩ :: past)

/-- After fewer than three refused rounds the deployment is read; after the read come the checks and
the write. -/
def registrationStep (past : Past) (c : Call) : Prop :=
  ∃ n < Bindings.registerAttempts, ∃ older, Refused validation d n older ∧
    (past = older ∧ c = .resource (.store (.getDeployment d.id)) ∨
    ∃ read checks, Round d past older read checks ∧
      (c.checksGroup = true ∨ ∃ guard, c = .resource (.store (.upsertDeployment d guard)) ∧
        Warrants validation read checks guard))

/-- A registration returns with one write. -/
def Registered (past : Past) : Prop :=
  ∃ guard, told wrote? past = [.upsertDeployment d guard]

/-- A registration fails without a write. It says that a condition failed after three refused rounds
only, if the store does not say so of a look-up. -/
def Unregistered (past : Past) (e : ServiceError) : Prop :=
  told wrote? past = [] ∧
  (e = .store .conditionFailed → Refused validation d Bindings.registerAttempts past ∨
    ∃ c e, (Call.resource (.store c)).looksUp = true ∧
      ⟨.resource (.store c), some (.error e)⟩ ∈ past)

end Registration

/-! ## Links and unlinks -/

section Links

/-- Quiet calls only. -/
def Quiet (past : Past) : Prop :=
  ∀ ex ∈ past, ex.call.isQuiet = true

variable (targetGroupId deploymentId : String)

/-- A link reads until it assigns, once, the deployment that it found free, with the provider that it
found on it. -/
def linkStep (past : Past) (c : Call) : Prop :=
  Quiet past ∧
  (c.isQuiet = true ∨ ∃ d a, c = .resource (.store (.assignDeployment deploymentId d.provider a)) ∧
    a.targetGroupId = targetGroupId ∧ d.assignment = none ∧
    ⟨.resource (.store (.getDeployment deploymentId)), some (.ok (some d))⟩ ∈ past)

/-- The store has refused to assign a deployment to the target group. -/
def AssignRefused (past : Past) : Prop :=
  ∃ id provider a, a.targetGroupId = targetGroupId ∧
    ⟨.resource (.store (.assignDeployment id provider a)), some (.error .conditionFailed)⟩ ∈ past

/-- Where the target group of a failed link comes from: a deployment was found at it, the deployment
was found to be assigned to it, or it is the one that was asked for and the store has refused. -/
inductive Named (past : Past) : String → Prop
  | occupied {d : Deployment} :
      ⟨.resource (.store (.findDeployment targetGroupId)), some (.ok (some d))⟩ ∈ past →
      Named past targetGroupId
  | bound {d : Deployment} {a : Assignment} :
      ⟨.resource (.store (.getDeployment deploymentId)), some (.ok (some d))⟩ ∈ past →
      d.assignment = some a → Named past a.targetGroupId
  | refused : AssignRefused targetGroupId past → Named past targetGroupId

/-- A refused assignment ends a link, with the target group that was asked for. -/
structure LinkFailed (past : Past) (e : ServiceError) : Prop where
  refused : AssignRefused targetGroupId past → e = .alreadyLinked targetGroupId
  named : ∀ t, e = .alreadyLinked t → Named targetGroupId deploymentId past t

def unlinkStep (c : Call) : Prop :=
  c = .resource (.store (.clearAssignment deploymentId targetGroupId))

end Links

/-! ## The table -/

def conduct (rules : ServiceRules) : Operation → Past → Call → Prop
  | registerDeployment d => registrationStep rules.schemaValidation d
  | linkDeployment targetGroupId deploymentId _ => linkStep targetGroupId deploymentId
  | unlinkDeployment targetGroupId deploymentId => fun _ => unlinkStep targetGroupId deploymentId
  | o => o.rule rules

def report (rules : ServiceRules) : (o : Operation) → Past → Except ServiceError o.Result → Prop
  | registerDeployment d, past, .ok _ => Registered d past
  | registerDeployment d, past, .error e => Unregistered rules.schemaValidation d past e
  | linkDeployment targetGroupId _ _, past, .ok _ => ¬ AssignRefused targetGroupId past
  | linkDeployment targetGroupId deploymentId _, past, .error e =>
    LinkFailed targetGroupId deploymentId past e
  | _, _, _ => True

section Rounds

variable {validation : SchemaValidation} {d : Deployment} {past older checks : Past}
  {read : Option Deployment} {n : Nat}

theorem wrote?_of_checksGroup {ex : Exchange Call.Reply} (h : ex.call.checksGroup = true) :
    wrote? ex = none := by
  unfold wrote?
  split
  · rename_i c _
    cases c <;> first | rfl | cases h
  · rfl

theorem Round.wrote (h : Round d past older read checks) :
    told wrote? past = told wrote? older := by
  have hchecks : told wrote? checks = [] :=
    List.filterMap_eq_nil_iff.mpr fun ex hex => wrote?_of_checksGroup (h.checks_only ex hex)
  have hread : wrote? ⟨.resource (.store (.getDeployment d.id)), some (.ok read)⟩ = none := rfl
  rw [h.past_eq, told, List.filterMap_append, List.filterMap_cons, hread]
  simpa [told] using hchecks

theorem Refused.wrote (h : Refused validation d n past) : told wrote? past = [] := by
  induction h with
  | none => rfl
  | round _ hround _ ih => exact hround.wrote.trans ih

theorem Round.start : Round d (⟨.resource (.store (.getDeployment d.id)), some (.ok read)⟩ :: older)
    older read [] :=
  ⟨rfl, by simp⟩

theorem Round.check (h : Round d past older read checks) {e : Exchange Call.Reply}
    (he : e.call.checksGroup = true) : Round d (e :: past) older read (e :: checks) where
  past_eq := by rw [h.past_eq, List.cons_append]
  checks_only := List.forall_mem_cons.mpr ⟨he, h.checks_only⟩

theorem Round.step (h : Round d past older read checks) (hn : n < Bindings.registerAttempts)
    (hr : Refused validation d n older) {c : Call} (hc : c.checksGroup = true) :
    registrationStep validation d past c :=
  ⟨n, hn, older, hr, .inr ⟨read, checks, h, .inl hc⟩⟩

theorem Round.unregistered (h : Round d past older read checks) (hr : Refused validation d n older)
    {e : ServiceError} (he : e ≠ .store .conditionFailed) : Unregistered validation d past e :=
  ⟨h.wrote.trans hr.wrote, fun h => absurd h he⟩

/-- Nothing but a look-up stands between a program and the schema, and only the registry can fail. -/
theorem targetSchema_asks {rule : Past → Call → Prop} {ok : Past → Json → Prop}
    {err : Past → ServiceError → Prop} {provider : Provider}
    (hr : rule past (.resource (.lookup provider)))
    (hok : ∀ reply schema, ok (⟨.resource (.lookup provider), some reply⟩ :: past) schema)
    (herr : ∀ reply detail,
      err (⟨.resource (.lookup provider), some reply⟩ :: past) (.registryFailed detail)) :
    (Compatibility.targetSchema provider).Obeys rule ok err past := by
  simp only [Compatibility.targetSchema, Service.obeys_bind, Service.obeys_ask]
  refine ⟨hr, ?_⟩
  rintro (e | answer)
  · exact herr _ _
  · dsimp only
    split
    · split
      · exact hok _ _
      · exact herr _ _
    · exact herr _ _

/-- The guard of a round fits what the round has read and found out. -/
theorem registrationGuard_conduct (hn : n < Bindings.registerAttempts)
    (hr : Refused validation d n older) (h : Round d past older read []) :
    (Bindings.registrationGuard validation read d).Obeys (registrationStep validation d)
      (fun past guard => ∃ checks, Round d past older read checks ∧
        Warrants validation read checks guard)
      (Unregistered validation d) past := by
  unfold Bindings.registrationGuard
  simp only
  split
  · exact ⟨[], h, trivial⟩
  · rename_i hcase
    obtain ⟨henforced, -⟩ := not_or.mp hcase
    have henforced : validation = .enforced := Classical.not_not.mp henforced
    split
    · rename_i hfree
      exact ⟨[], h, henforced, hfree⟩
    · rename_i a ha
      simp only [Bindings.getTargetGroup, Bindings.ensureCompatible, Service.obeys_bind,
        Service.obeys_store, Service.obeys_orNotFound]
      refine ⟨h.step hn hr rfl, fun found => ⟨fun group hgroup => ?_, fun _ => ?_⟩, fun e => ?_⟩
      · have h := h.check (e := ⟨.resource (.store (.getTargetGroup a.targetGroupId)),
          some (.ok found)⟩) rfl
        refine targetSchema_asks (h.step hn hr rfl) (fun reply schema => ?_) fun reply detail => ?_
        · split
          · exact ⟨_, h.check rfl, henforced, a, group, ha, by simp [groupFound?, hgroup], rfl⟩
          · exact (h.check rfl).unregistered hr (by simp)
        · exact (h.check rfl).unregistered hr (by simp)
      · exact (h.check rfl).unregistered hr (by simp)
      · refine ⟨(h.check rfl).wrote.trans hr.wrote, fun _ => .inr ⟨_, e, ?_, List.mem_cons_self⟩⟩
        rfl

end Rounds

theorem registerWithin_conduct (validation : SchemaValidation) (d : Deployment) {attempts n : Nat}
    (hn : n + attempts = Bindings.registerAttempts) {past : Past} (h : Refused validation d n past) :
    (Bindings.registerWithin validation d attempts).Obeys (registrationStep validation d)
      (fun past _ => Registered d past) (Unregistered validation d) past := by
  induction attempts generalizing n past with
  | zero =>
    obtain rfl : n = Bindings.registerAttempts := hn
    exact ⟨h.wrote, fun _ => .inl h⟩
  | succ attempts ih =>
    have hlt : n < Bindings.registerAttempts := by omega
    simp only [Bindings.registerWithin, Service.obeys_bind, Service.obeys_store]
    refine ⟨⟨n, hlt, past, h, .inl ⟨rfl, rfl⟩⟩, fun read => ?_, fun e => ?_⟩
    · refine (registrationGuard_conduct hlt h .start).mono ?_ fun _ _ h => h
      rintro past' guard ⟨checks, hround, hwarrants⟩
      simp only [Service.obeys_ask]
      refine ⟨⟨n, hlt, past, h, .inr ⟨read, checks, hround, .inr ⟨guard, rfl, hwarrants⟩⟩⟩, ?_⟩
      rintro (e | stored)
      · cases e with
        | conditionFailed => exact ih (by omega) (.round h hround hwarrants)
        | invalidPageToken => exact ⟨hround.wrote.trans h.wrote, by simp⟩
        | backend detail => exact ⟨hround.wrote.trans h.wrote, by simp⟩
      · exact ⟨guard, congrArg (_ :: ·) (hround.wrote.trans h.wrote)⟩
    · exact ⟨h.wrote, fun _ => .inr ⟨_, e, rfl, List.mem_cons_self⟩⟩

/-! ## Links -/

section Links

variable {targetGroupId deploymentId : String} {past : Past}

theorem quiet_nil : Quiet [] := by simp [Quiet]

theorem Quiet.cons (h : Quiet past) {ex : Exchange Call.Reply} (hex : ex.call.isQuiet = true) :
    Quiet (ex :: past) :=
  List.forall_mem_cons.mpr ⟨hex, h⟩

theorem Quiet.not_assignRefused (h : Quiet past) : ¬ AssignRefused targetGroupId past := by
  rintro ⟨id, provider, a, -, ha⟩
  cases h _ ha

theorem Quiet.linkFailed (h : Quiet past) {e : ServiceError}
    (he : ∀ t, e = .alreadyLinked t → Named targetGroupId deploymentId past t) :
    LinkFailed targetGroupId deploymentId past e :=
  ⟨fun hr => absurd hr h.not_assignRefused, he⟩

theorem Quiet.assignRefused_cons (h : Quiet past) {c : StoreCall} {r : c.Reply}
    (hr : AssignRefused targetGroupId (⟨.resource (.store c), some r⟩ :: past)) :
    r = .error .conditionFailed := by
  obtain ⟨id, provider, a, -, ha⟩ := hr
  rcases List.mem_cons.mp ha with hex | ha
  · cases hex
    rfl
  · cases h _ ha

theorem assign_conduct {d : Deployment} {priority : Int} {group : TargetGroup}
    {next : Except StoreError Deployment → Service TargetGroup}
    (hassigned : ∀ stored, next (.ok stored) = pure group)
    (hrefused : next (.error .conditionFailed) = throw (.alreadyLinked targetGroupId))
    (hpage : next (.error .invalidPageToken) = throw (.store .invalidPageToken))
    (hbackend : ∀ detail, next (.error (.backend detail)) = throw (.store (.backend detail)))
    (h : Quiet past) (hfree : d.assignment = none)
    (hread : ⟨.resource (.store (.getDeployment deploymentId)), some (.ok (some d))⟩ ∈ past) :
    (Service.ask (.store (.assignDeployment deploymentId d.provider
      (d.assignmentFor targetGroupId priority))) >>= next).Obeys
      (linkStep targetGroupId deploymentId) (fun past _ => ¬ AssignRefused targetGroupId past)
      (LinkFailed targetGroupId deploymentId) past := by
  simp only [Service.obeys_bind, Service.obeys_ask]
  refine ⟨⟨h, .inr ⟨d, _, rfl, rfl, hfree, hread⟩⟩, ?_⟩
  rintro (e | stored)
  · cases e with
    | conditionFailed =>
      rw [hrefused]
      refine ⟨fun _ => rfl, ?_⟩
      rintro _ ⟨⟩
      exact .refused ⟨_, _, _, rfl, List.mem_cons_self⟩
    | invalidPageToken =>
      rw [hpage]
      refine ⟨fun hr => ?_, by simp⟩
      cases h.assignRefused_cons hr
    | backend detail =>
      rw [hbackend]
      refine ⟨fun hr => ?_, by simp⟩
      cases h.assignRefused_cons hr
  · rw [hassigned stored]
    intro hr
    cases h.assignRefused_cons hr

theorem linkDeployment_conduct (validation : SchemaValidation) (priority : Int) :
    (Bindings.linkDeployment validation targetGroupId deploymentId priority).Obeys
      (linkStep targetGroupId deploymentId) (fun past _ => ¬ AssignRefused targetGroupId past)
      (LinkFailed targetGroupId deploymentId) [] := by
  simp only [Bindings.linkDeployment, Bindings.getTargetGroup, Service.obeys_bind,
    Service.obeys_store, Service.obeys_orNotFound]
  refine ⟨⟨quiet_nil, .inl rfl⟩, fun found => ⟨fun group _ => ?_,
    fun _ => (quiet_nil.cons rfl).linkFailed (by simp)⟩,
    fun e => (quiet_nil.cons rfl).linkFailed (by simp)⟩
  refine ⟨⟨quiet_nil.cons rfl, .inl rfl⟩, fun found' => ⟨?_,
    fun _ => ((quiet_nil.cons rfl).cons rfl).linkFailed (by simp)⟩,
    fun e => ((quiet_nil.cons rfl).cons rfl).linkFailed (by simp)⟩
  rintro d rfl
  refine ⟨⟨(quiet_nil.cons rfl).cons rfl, .inl rfl⟩, fun occupant => ?_,
    fun e => (((quiet_nil.cons rfl).cons rfl).cons rfl).linkFailed (by simp)⟩
  have quiet : Quiet [⟨.resource (.store (.findDeployment targetGroupId)), some (.ok occupant)⟩,
      ⟨.resource (.store (.getDeployment deploymentId)), some (.ok (some d))⟩,
      ⟨.resource (.store (.getTargetGroup targetGroupId)), some (.ok found)⟩] :=
    ((quiet_nil.cons rfl).cons rfl).cons rfl
  split
  · rename_i hsome
    obtain ⟨other, rfl⟩ := Option.isSome_iff_exists.mp hsome
    refine quiet.linkFailed ?_
    rintro _ ⟨⟩
    exact .occupied List.mem_cons_self
  · split
    · rename_i a ha
      refine quiet.linkFailed ?_
      rintro _ ⟨⟩
      exact .bound (List.mem_cons_of_mem _ List.mem_cons_self) ha
    · rename_i hfree
      split
      · simp only [Bindings.ensureCompatible, Service.obeys_bind]
        refine targetSchema_asks ⟨quiet, .inl rfl⟩ (fun reply schema => ?_)
          fun reply detail => (quiet.cons rfl).linkFailed (by simp)
        split
        · refine assign_conduct (fun _ => rfl) rfl rfl (fun _ => rfl) (quiet.cons rfl) hfree ?_
          exact List.mem_cons_of_mem _ (List.mem_cons_of_mem _ List.mem_cons_self)
        · exact (quiet.cons rfl).linkFailed (by simp)
      · exact assign_conduct (fun _ => rfl) rfl rfl (fun _ => rfl) quiet hfree
          (List.mem_cons_of_mem _ List.mem_cons_self)

end Links

theorem unlinkDeployment_conduct (targetGroupId deploymentId : String) :
    (Bindings.unlinkDeployment targetGroupId deploymentId).Obeys
      (fun _ => unlinkStep targetGroupId deploymentId) (fun _ _ => True) (fun _ _ => True) [] := by
  simp only [Bindings.unlinkDeployment, Service.obeys_bind, Service.obeys_ask]
  refine ⟨rfl, ?_⟩
  rintro (e | deployment)
  · cases e <;> trivial
  · trivial

/-! ## Every operation -/

theorem program_conduct (rules : ServiceRules) (o : Operation) :
    Interaction.Obeys (conduct rules o) (report rules o) [] (o.program rules).run := by
  have keeps := program_obeys rules o
  cases o with
  | registerDeployment d =>
    refine Interaction.Obeys.mono
      (registerWithin_conduct rules.schemaValidation d (Nat.zero_add _) .none) (fun _ _ h => h)
      fun past r h => ?_
    cases r <;> exact h
  | linkDeployment targetGroupId deploymentId priority =>
    refine Interaction.Obeys.mono (linkDeployment_conduct rules.schemaValidation priority)
      (fun _ _ h => h) fun past r h => ?_
    cases r <;> exact h
  | unlinkDeployment targetGroupId deploymentId =>
    exact Interaction.Obeys.mono (unlinkDeployment_conduct targetGroupId deploymentId)
      (fun _ _ h => h) fun _ _ _ => trivial
  | _ => exact Interaction.Obeys.mono keeps (fun _ _ h => h) fun _ _ _ => trivial

/-! ## Whose a write is -/

theorem registrationStep_cases {validation : SchemaValidation} {d : Deployment} {past : Past}
    {c : Call} (h : registrationStep validation d past c) :
    c.looksUp = true ∨ ∃ guard, c = .resource (.store (.upsertDeployment d guard)) := by
  obtain ⟨n, -, older, -, ⟨-, rfl⟩ | ⟨read, checks, -, hcheck | ⟨guard, rfl, -⟩⟩⟩ := h
  · exact .inl rfl
  · exact .inl (by rw [Call.looksUp, hcheck, Bool.or_true])
  · exact .inr ⟨guard, rfl⟩

section Whose

variable {rules : ServiceRules} {o : Operation} {past : Past}

theorem conduct_assign {id : String} {provider : Provider} {a : Assignment}
    (h : conduct rules o past (.resource (.store (.assignDeployment id provider a)))) :
    ∃ priority, o = .linkDeployment a.targetGroupId id priority := by
  cases o with
  | linkDeployment targetGroupId deploymentId priority =>
    obtain ⟨-, hquiet | ⟨d, a', hcall, rfl, -⟩⟩ := h
    · cases hquiet
    · cases hcall
      exact ⟨priority, rfl⟩
  | registerDeployment d =>
    rcases registrationStep_cases h with hlooks | ⟨guard, hcall⟩
    · cases hlooks
    · cases hcall
  | _ => cases h

theorem conduct_clear {id targetGroupId : String}
    (h : conduct rules o past (.resource (.store (.clearAssignment id targetGroupId)))) :
    o = .unlinkDeployment targetGroupId id := by
  cases o with
  | linkDeployment _ _ _ =>
    obtain ⟨-, hquiet | ⟨d, a, hcall, -⟩⟩ := h
    · cases hquiet
    · cases hcall
  | registerDeployment d =>
    rcases registrationStep_cases h with hlooks | ⟨guard, hcall⟩
    · cases hlooks
    · cases hcall
  | unlinkDeployment _ _ =>
    cases h
    rfl
  | _ => cases h

theorem conduct_upsert {d : Deployment} {guard : AssignmentGuard}
    (h : conduct rules o past (.resource (.store (.upsertDeployment d guard)))) :
    o = .registerDeployment d := by
  cases o with
  | linkDeployment _ _ _ =>
    obtain ⟨-, hquiet | ⟨d, a, hcall, -⟩⟩ := h
    · cases hquiet
    · cases hcall
  | registerDeployment d =>
    rcases registrationStep_cases h with hlooks | ⟨guard, hcall⟩
    · cases hlooks
    · cases hcall
      rfl
  | _ => cases h

end Whose

end Operation

namespace Pool

/-- Every run of the services is a trace in which the operations do so. -/
theorem services_conduct (rules : ServiceRules) (view : Surroundings → Surroundings) (w₀ : World)
    (moves : List (services rules view).Move) :
    Keeps (S := services rules view) (Operation.conduct rules) (Operation.report rules) w₀
      (run w₀ moves) :=
  run_keeps (Operation.program_conduct rules) w₀ moves

/-- The states of a run from an empty store. -/
abbrev states {rules : ServiceRules} {view : Surroundings → Surroundings} (pageSize : Nat)
    (clock : Instant) (moves : List (services rules view).Move) (n : Nat) :
    (services rules view).State :=
  run (World.fresh pageSize clock) (moves.take n)

/-- Right after a deployment was read it is stored as it was found. -/
theorem Trace.deployment_read {S : Pool} {rule : S.Op → Past → Call → Prop} {w₀ w : World} {i : Nat}
    {o : S.Op} {id : String} {found : Option Deployment} {older : List S.Entry}
    (h : Trace rule w₀ w
      (⟨i, o, .resource (.store (.getDeployment id)), some (.ok found)⟩ :: older)) :
    w.store.deployments[id]? = found := by
  obtain ⟨s, hread, hs⟩ := h.newest rfl
  rw [hs]
  exact (Except.ok.inj hread).symm

end Pool
end AccessGrants
