import AccessGrants.Proofs.Alone.Unheard
import AccessGrants.Proofs.Concurrency.Rules
import AccessGrants.Proofs.Requests.Ledger

/-!
# AccessGrants.Proofs.Requests.EventLog

Sessions with the workflow that only records grants. The events mirror the store, and what becomes of
them makes no difference.

* `Operation.recordedProgram` — what an operation does with this workflow.
* `recordedProgram_steps`     — one turn is aside, submits a request, or settles one.
* `recordedProgram_deaf`      — it does not listen to what becomes of its events.
* `session_mirrored`          — every session.
-/

namespace AccessGrants

open Service

theorem Call.not_isEmit_of_isAside (c : Call) (h : c.isAside = true) : (!c.isEmit) = true := by
  cases c with
  | resource q =>
    cases q with
    | emit event => cases h
    | _ => rfl
  | _ => rfl

namespace LocalWorkflow

variable {kind : Call → Bool}

theorem grantAll_within (hid : kind (.resource .freshId) = true) (group : AccessGroup)
    (subject : Requester) (start stop : Instant) (targets : List Target) :
    (ofResources (grantAll group subject start stop targets)).Within kind := by
  induction targets with
  | nil => exact within_pure []
  | cons target rest ih =>
    rw [grantAll, ofResources_bind]
    refine (within_ask hid).bind fun id => ?_
    rw [ofResources_bind]
    exact ih.bind fun more => within_pure _

theorem grant_within (hnow : kind (.resource .now) = true) (hid : kind (.resource .freshId) = true)
    (group : AccessGroup) (subject : Requester) : (ofResources (grant group subject)).Within kind := by
  rw [grant, ofResources_bind]
  refine (within_ask hnow).bind fun start => ?_
  rw [ofResources_bind]
  cases group.duration?.bind start.addSeconds? with
  | none => exact within_throw _
  | some stop =>
    refine (within_pure stop).bind fun stop => ?_
    rw [ofResources_bind]
    exact (grantAll_within hid group subject start stop group.targets).bind fun grants =>
      within_pure _

theorem handle_within (c : Call) : (handle c).Within fun c => !c.isWorkflow := by
  cases c with
  | grant group subject => exact grant_within rfl rfl group subject
  | revoke request id email => exact within_pure _
  | _ => exact within_call rfl

theorem handle_deaf (c : Call) (hc : c.isEmit = false) : (handle c).Deaf := by
  refine Within.deaf ?_
  cases c with
  | grant group subject => exact grant_within rfl rfl group subject
  | revoke request id email => exact within_pure _
  | _ => exact within_call (by rw [hc]; rfl)

end LocalWorkflow

namespace Service

/-- With a handler that keeps to a kind of calls, an operation that does not overflow keeps to it. -/
theorem via_within {handle : (c : Call) → Service c.Reply} {kind : Call → Bool}
    (hh : ∀ c, (handle c).Within kind) {rule : Past → Call → Prop} {ok : Past → α → Prop}
    {err : Past → ServiceError → Prop} {past : Past} {p : Service α} (hp : p.Obeys rule ok err past) :
    (p.via handle).Within kind := by
  have tree : ∀ (q : Proc (Except ServiceError α)) (past : Past),
      Service.Obeys (ExceptT.mk q) rule ok err past → (via handle (ExceptT.mk q)).Within kind := by
    intro q
    induction q with
    | done r =>
      intro _ _
      cases r with
      | ok a => exact within_pure a
      | error e => exact within_throw e
    | step c next ih =>
      intro past h
      rw [via_step]
      exact (hh c).bind fun r => ih r _ (h.2 r)
    | overflow => exact fun _ h => h.elim
  exact tree p.run past hp

end Service

namespace Requests

theorem grantGroups_within {kind : Call → Bool} (hgrant : ∀ g s, kind (.grant g s) = true)
    (hcount : ∀ m, kind (.resource (.count m)) = true) (subject : Requester)
    (groups : List AccessGroup) : (grantGroups subject groups).Within kind := by
  induction groups with
  | nil => exact within_pure []
  | cons group rest ih =>
    have hask : (call (.grant group subject)).Within kind := within_call (hgrant group subject)
    refine hask.bind ?_
    rintro (e | grants)
    · exact (within_ask (hcount _)).bind fun _ => within_throw _
    · exact ih.bind fun granted => within_pure _

theorem createRequest_deaf (policy : GrantPolicy) (user : User) (input : Submission) :
    (createRequest policy user input).Deaf := by
  have hstore : ∀ c, (store c).Deaf := fun c => Within.deaf (within_store rfl)
  have hask : ∀ r, (Call.resource r).isEmit = false → (ask r).Deaf :=
    fun r hr => Within.deaf (within_ask (by rw [hr]; rfl))
  refine (hstore _).bind fun found => (Within.deaf (within_orNotFound _ found)).bind fun p₀ => ?_
  dsimp only
  split
  · exact (hask _ rfl).bind fun _ => deaf_throw _
  refine (hask _ rfl).bind fun now => (hstore _).bind fun claimed => ?_
  cases claimed with
  | none => exact (hask _ rfl).bind fun _ => deaf_throw _
  | some p =>
    refine (hask _ rfl).bind fun id => ?_
    refine (Within.deaf (grantGroups_within (fun _ _ => rfl) (fun _ => rfl) _ _)).bind fun groups => ?_
    refine (hstore _).bind fun _ => (hask _ rfl).bind fun _ => (hask _ rfl).bind fun _ => ?_
    exact (deaf_emit _).bind fun _ => deaf_pure _

theorem emitRevoked_deaf (requestId actorId : String) (grants : List Grant) :
    (emitRevoked requestId actorId grants).Deaf := by
  induction grants with
  | nil => exact deaf_pure ()
  | cons grant rest ih => exact (deaf_emit _).bind fun _ => ih

theorem revokeRequest_deaf (actor : User) (id : String) : (revokeRequest actor id).Deaf := by
  have hvisible : (visibleRequest actor id).Deaf :=
    Within.deaf ((visibleRequest_plain actor id).mono fun c hc =>
      Call.not_isEmit_of_isAside c (Call.isAside_of_isPlain c hc))
  have hstore : ∀ c, (store c).Deaf := fun c => Within.deaf (within_store rfl)
  have hnow : now.Deaf := Within.deaf (within_ask rfl)
  have hrevoke : ∀ r, (call (.revoke r actor.id actor.email)).Deaf :=
    fun r => Within.deaf (within_call rfl)
  refine hvisible.bind fun r => hnow.bind fun t => (hrevoke _).bind ?_
  rintro (e | revoked)
  · dsimp only
    split
    · exact (hstore _).bind fun _ => deaf_throw _
    · exact deaf_throw _
  · have hcount : (count (.grantsRevoked revoked.length)).Deaf := Within.deaf (within_ask rfl)
    exact (hstore _).bind fun _ => hcount.bind fun _ => (emitRevoked_deaf _ _ _).bind fun _ =>
      deaf_pure _

end Requests

namespace Operation

/-- The operation with the workflow that only records grants. -/
def recordedProgram (rules : ServiceRules) (o : Operation) : Service o.Result :=
  (o.program rules).via LocalWorkflow.handle

theorem recordedProgram_deaf (rules : ServiceRules) (o : Operation) : (o.recordedProgram rules).Deaf := by
  refine Deaf.via LocalWorkflow.handle_keeps LocalWorkflow.handle_deaf ?_
  by_cases haside : o.isAside = true
  · exact Within.deaf ((program_within_aside rules haside).mono Call.not_isEmit_of_isAside)
  · cases o with
    | createRequest user input => exact Requests.createRequest_deaf rules.policy user input
    | revokeRequest actor id => exact Requests.revokeRequest_deaf actor id
    | _ => exact absurd rfl haside

end Operation

namespace Session

/-- What one turn can do to a session. -/
inductive Steps (s s' : Session) : Prop where
  | aside (h : s.Aside s')
  | submitted (r : AccessRequest) (h : s.Submitted s' r)
  | settled (o : Revocation) (r : AccessRequest) (t : Instant)
      (verdict : Except WorkflowError (List Grant)) (h : s.Settled s' o r t verdict)

variable {s s' : Session}

theorem Steps.ids (h : s.Steps s') : s.ids <:+ s'.ids := by
  cases h with
  | aside h => exact h.ids
  | settled o r t verdict h => exact h.ids
  | submitted r h =>
    obtain ⟨before, hbefore, hall⟩ := h.ids
    rw [Session.ids, Session.ids, hall]
    exact (hbefore.trans (List.suffix_cons _ _)).trans (List.suffix_append _ _)

theorem Ledgered.step (h : s.Ledgered) (hstep : s.Steps s') (hids : s'.ids.Nodup) : s'.Ledgered := by
  cases hstep with
  | aside haside => exact h.aside haside
  | submitted r hs => exact h.submitted hs hids
  | settled o r t verdict hs => exact h.settled hs

end Session

namespace Operation

theorem recordedProgram_steps (rules : ServiceRules) (o : Operation) (s : Session) :
    Interaction.Ensures (fun store past _ => s.Steps ⟨store, past⟩) s.store s.past
      (o.recordedProgram rules).run := by
  by_cases haside : o.isAside = true
  · have hwithin := program_within_aside rules haside
    rw [recordedProgram, hwithin.via_local]
    refine Interaction.Ensures.mono (within_ensures hwithin s.store s.past) fun _ _ answer h => ?_
    cases answer with
    | ok a => exact .aside h
    | error e => exact .aside h
  · cases o with
    | createRequest user input =>
      refine Interaction.Ensures.mono (Requests.createRequest_records rules.policy user input)
        fun _ _ answer h => ?_
      cases answer with
      | ok r => exact .submitted r h
      | error e => exact .aside h
    | revokeRequest actor id =>
      refine Interaction.Ensures.mono (Requests.revokeRequest_records actor id) fun _ _ answer h => ?_
      cases answer with
      | ok q =>
        obtain ⟨r, t, revoked, h⟩ := h
        exact .settled _ r t _ h
      | error e =>
        rcases h with h | ⟨r, t, e, h⟩
        · exact .aside h
        · exact .settled _ r t _ h
    | _ => exact absurd rfl haside

theorem exists_recorded (rules : ServiceRules) (s : Session) (t : Turn Operation) :
    ∃ answer s', s.serve (recordedProgram rules) t = (some answer, s') := by
  have hwithin := via_within LocalWorkflow.handle_within (program_obeys rules t.op)
  exact Interaction.exists_finish _ _ (hwithin s.past) fun _ c hc => by simpa using hc

end Operation

namespace Session

open Operation (recordedProgram recordedProgram_steps recordedProgram_deaf exists_recorded)

/-- Every turn is one of these steps. -/
theorem serve_steps (rules : ServiceRules) (s : Session) (t : Turn Operation) :
    s.Steps (s.serve (recordedProgram rules) t).2 := by
  obtain ⟨answer, s', hrun⟩ := exists_recorded rules s t
  rw [hrun]
  exact Interaction.finish_ensures (recordedProgram_steps rules t.op s) hrun

/-- After any turns over an empty store whose new ids are all different, the events and the counters
mirror the store. The receivers of the events make no difference to what is answered and stored. -/
theorem session_mirrored (rules : ServiceRules) (pageSize : Nat) (turns : List (Turn Operation)) :
    (((start pageSize).after (recordedProgram rules) turns).ids.Nodup →
      ((start pageSize).after (recordedProgram rules) turns).Mirrored) ∧
    ∀ turns', List.Forall₂ (fun t t' => ∃ receivers, t' = t.heardBy receivers) turns turns' →
      answers (recordedProgram rules) (start pageSize) turns' =
        answers (recordedProgram rules) (start pageSize) turns ∧
      ((start pageSize).after (recordedProgram rules) turns').store =
        ((start pageSize).after (recordedProgram rules) turns).store := by
  refine ⟨fun hids => ?_, fun turns' h => answers_unheard (recordedProgram_deaf rules) h rfl⟩
  refine (after_keeps (fun s => s.ids.Nodup → s.Ledgered) (fun s t h hnodup => ?_)
    (fun _ => ledgered_start pageSize) turns hids).toMirrored
  have hstep := serve_steps rules s t
  exact (h (hnodup.sublist hstep.ids.sublist)).step hstep hnodup

namespace Sample

/-! A request that is submitted and revoked. -/

def alice : User := ⟨"alice", "alice@example.org", ∅⟩

def vault : Target := ⟨"vault", "group", "rule", ∅, ∅, ∅⟩

def rules : ServiceRules := ⟨.deferred, .standard⟩

/-- Everyone may request everything, and the n-th call is offered the n-th id. -/
def offering (ids : List String) (n : Nat) : Moment :=
  ⟨{ Surroundings.plain with id := ids.getD n "", mayRequest := fun _ _ => .ok true }, ⟨60, 0⟩⟩

def turns : List (Turn Operation) :=
  [⟨.putTarget vault, offering []⟩,
    ⟨.createPreflight alice ["vault"], offering ["", "", "", "set", "draft"]⟩,
    ⟨.createRequest alice ⟨"draft", none, []⟩, offering ["", "", "", "request", "", "grant"]⟩,
    ⟨.revokeRequest alice "request", offering []⟩]

/-- The same turns, and no event arrives. -/
def lost : List (Turn Operation) :=
  turns.map fun t => t.heardBy fun _ _ => .error "down"

theorem ids_turns : ((start 10).after (recordedProgram rules) turns).ids =
    ["grant", "request", "draft", "set"] := by
  decide +kernel

theorem events_turns : ((start 10).after (recordedProgram rules) turns).events =
    [.requestCreated "request" "alice" ["grant"], .grantRevoked "request" "grant" "alice"] := by
  decide +kernel

theorem turns_mirrored :
    ((start 10).after (recordedProgram rules) turns).Mirrored ∧
    ((start 10).after (recordedProgram rules) turns).events =
      [.requestCreated "request" "alice" ["grant"], .grantRevoked "request" "grant" "alice"] ∧
    answers (recordedProgram rules) (start 10) lost =
      answers (recordedProgram rules) (start 10) turns := by
  obtain ⟨hmirrored, hunheard⟩ := session_mirrored rules 10 turns
  refine ⟨hmirrored ?_, events_turns, (hunheard lost ?_).1⟩
  · rw [ids_turns]
    decide
  · exact List.forall₂_map_right_iff.mpr (List.forall₂_same.mpr fun t _ => ⟨_, rfl⟩)

end Sample

end Session
end AccessGrants
