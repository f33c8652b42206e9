import AccessGrants.Proofs.Concurrency.Operations

/-!
# AccessGrants.Proofs.Requests.Rules

Which ids, preflights, grants and requests an operation may deal with, in view of its own past.

* `Exchange.issued?` and the like — what one exchange says about them.
* `draftRule`, `submissionRule` — which calls an operation may make next.
* `createPreflight_obeys`, `createRequest_obeys` — the operations keep them, whatever they are
                           answered.
-/

namespace AccessGrants

namespace Exchange

/-- The id that was handed out. -/
def issued? : Exchange Call.Reply → Option String
  | ⟨.resource .freshId, some id⟩ => some id
  | _ => none

/-- The preflight that was stored. -/
def drafted? : Exchange Call.Reply → Option Preflight
  | ⟨.resource (.store (.putPreflight p)), some (.ok _)⟩ => some p
  | _ => none

/-- The preflight that was claimed, as it was answered. -/
def claimed? : Exchange Call.Reply → Option Preflight
  | ⟨.resource (.store (.claimPreflight _ _ _)), some (.ok found)⟩ => found
  | _ => none

/-- The access group that the workflow was asked about, whatever came of it. -/
def asked? : Exchange Call.Reply → Option AccessGroup
  | ⟨.grant group _, _⟩ => some group
  | _ => none

/-- The request that was stored. -/
def stored? : Exchange Call.Reply → Option AccessRequest
  | ⟨.resource (.store (.putRequest r)), some (.ok _)⟩ => some r
  | _ => none

/-- The request that was read. -/
def read? : Exchange Call.Reply → Option AccessRequest
  | ⟨.resource (.store (.getRequest _)), some (.ok found)⟩ => found
  | _ => none

end Exchange

open Exchange

namespace Preflight

def groupIds (p : Preflight) : List String :=
  p.accessGroups.map (·.id)

end Preflight

namespace Operation

/-- A preflight is stored once, unused, with ids that were handed out for it. -/
def draftRule (user : User) (past : Past) : Call → Prop
  | .resource .freshId => told drafted? past = []
  | .resource (.store (.putPreflight p)) =>
    told drafted? past = [] ∧ p.userId = user.id ∧ p.consumedAt = none ∧
      told issued? past = p.id :: p.groupIds.reverse
  | c => c.isQuiet

/-- Whether the next group that the workflow is asked about is the next one of the preflight that
was claimed. -/
def asksNext (policy : GrantPolicy) (input : Submission) (past : Past)
    (group : AccessGroup) : Prop :=
  ∃ p id, told claimed? past = [p] ∧ told issued? past = [id] ∧
    (told asked? past).reverse ++ [group] <+:
      p.accessGroups.map (Requests.accessGroup policy id input.groupOptions)

/-- A preflight is claimed once, for the user; then an id is handed out, the workflow is asked about
the groups of the preflight in order, and a request is stored under the id. -/
def submissionRule (policy : GrantPolicy) (user : User) (input : Submission)
    (past : Past) : Call → Prop
  | .resource (.store (.claimPreflight _ userId _)) =>
    told claimed? past = [] ∧ userId = user.id
  | .resource .freshId => told issued? past = [] ∧ ∃ p, told claimed? past = [p]
  | .grant group subject => subject = user.requester ∧ asksNext policy input past group
  | .resource (.store (.putRequest r)) =>
    ∃ p, told claimed? past = [p] ∧ told issued? past = [r.id] ∧
      r.preflightId = p.id ∧ r.requestedBy = user.requester
  | c => c.isQuiet

/-! ## Drafting -/

theorem resolve_obeys (user me : User) (ids : List String) {past : Past}
    (hd : told drafted? past = []) (hi : told issued? past = []) :
    (Preflights.resolve user ids).Obeys (draftRule me)
      (fun past _ => told drafted? past = [] ∧ told issued? past = []) (fun _ _ => True) past := by
  induction ids generalizing past with
  | nil => simpa [Preflights.resolve] using ⟨hd, hi⟩
  | cons id ids ih =>
    simp only [Preflights.resolve, Service.obeys_bind, Service.obeys_call, Service.obeys_verdict]
    refine ⟨rfl, fun answer => ⟨fun may _ => ?_, fun _ _ => trivial⟩⟩
    cases may with
    | false => simp [draftRule, Call.isQuiet]
    | true =>
      simp only [if_true, Service.obeys_bind, Service.obeys_store, Service.obeys_orNotFound]
      refine ⟨rfl, fun found => ⟨fun target _ => ?_, fun _ => trivial⟩, fun _ => trivial⟩
      refine (ih ?_ ?_).mono (fun past rest h => ?_) fun _ _ h => h
      · simpa [drafted?] using hd
      · simpa [issued?] using hi
      · simpa using h

theorem nameGroups_obeys (me : User) (groups : List (String × List Target)) {past : Past}
    (hd : told drafted? past = []) :
    (Preflights.nameGroups groups).Obeys (draftRule me)
      (fun past' named => told drafted? past' = [] ∧
        told issued? past' = (named.map (·.id)).reverse ++ told issued? past)
      (fun _ _ => True) past := by
  induction groups generalizing past with
  | nil => simpa [Preflights.nameGroups] using hd
  | cons group groups ih =>
    simp only [Preflights.nameGroups, Service.obeys_bind, Service.obeys_freshId]
    refine ⟨hd, fun id => ?_⟩
    refine (ih ?_).mono (fun past' rest h => ?_) fun _ _ h => h
    · simpa [drafted?] using hd
    · simpa [issued?] using h

theorem createPreflight_obeys (user : User) (targetIds : List String) :
    (Preflights.createPreflight user targetIds).Obeys (draftRule user) (fun _ _ => True)
      (fun _ _ => True) [] := by
  unfold Preflights.createPreflight
  split
  · simp [draftRule, Call.isQuiet]
  · split
    · simp [draftRule, Call.isQuiet]
    · simp only [Preflights.draft, Service.obeys_bind]
      refine (resolve_obeys user user targetIds rfl rfl).mono (fun past targets h => ?_)
        fun _ _ h => h
      obtain ⟨hd, hi⟩ := h
      simp only [Service.obeys_now]
      refine ⟨rfl, fun now => ?_⟩
      refine (nameGroups_obeys user _ ?_).mono (fun past' groups h => ?_) fun _ _ h => h
      · simpa [drafted?] using hd
      · obtain ⟨hd', hi'⟩ := h
        simp [draftRule, Call.isQuiet, Preflight.create, Preflight.groupIds, drafted?, issued?, hd',
          hi', hi]

/-! ## Submitting -/

/-- The groups still to come and those asked about are the groups of the preflight. -/
theorem grantGroups_obeys {policy : GrantPolicy} {user : User} {input : Submission} (p : Preflight)
    (id : String) (groups : List AccessGroup) {past : Past} (hc : told claimed? past = [p])
    (hi : told issued? past = [id])
    (ha : (told asked? past).reverse ++ groups =
      p.accessGroups.map (Requests.accessGroup policy id input.groupOptions)) :
    (Requests.grantGroups user.requester groups).Obeys (submissionRule policy user input)
      (fun past _ => told claimed? past = [p] ∧ told issued? past = [id]) (fun _ _ => True) past := by
  induction groups generalizing past with
  | nil => simpa [Requests.grantGroups] using ⟨hc, hi⟩
  | cons group groups ih =>
    simp only [Requests.grantGroups, Service.obeys_bind, Service.obeys_call]
    refine ⟨⟨rfl, p, id, hc, hi, groups, by simpa using ha⟩, ?_⟩
    rintro (e | grants)
    · simp [submissionRule, Call.isQuiet]
    · simp only [Service.obeys_bind, Service.obeys_pure]
      refine (ih ?_ ?_ ?_).mono (fun _ _ h => h) fun _ _ h => h
      · simpa [claimed?] using hc
      · simpa [issued?] using hi
      · simpa [asked?] using ha

theorem createRequest_obeys (policy : GrantPolicy) (user : User) (input : Submission) :
    (Requests.createRequest policy user input).Obeys (submissionRule policy user input)
      (fun _ _ => True) (fun _ _ => True) [] := by
  simp only [Requests.createRequest, Service.obeys_bind, Service.obeys_store,
    Service.obeys_orNotFound]
  refine ⟨rfl, fun found => ⟨fun p₀ _ => ?_, fun _ => trivial⟩, fun _ => trivial⟩
  split
  · simp [submissionRule, Call.isQuiet]
  · simp only [Service.obeys_bind, Service.obeys_now, Service.obeys_store]
    refine ⟨rfl, fun now => ⟨by simp [submissionRule, claimed?], fun claimed => ?_, fun _ => trivial⟩⟩
    cases claimed with
    | none => simp [submissionRule, Call.isQuiet]
    | some p =>
      simp only [Service.obeys_bind, Service.obeys_freshId]
      refine ⟨by simp [submissionRule, claimed?, issued?], fun id => ?_⟩
      refine (grantGroups_obeys p id _ ?_ ?_ ?_).mono (fun past groups h => ?_)
        fun _ _ h => h
      · simp [claimed?]
      · simp [issued?]
      · simp [asked?]
      · obtain ⟨hc, hi⟩ := h
        simp [submissionRule, Call.isQuiet, hc, hi, User.requester]

end Operation

end AccessGrants
