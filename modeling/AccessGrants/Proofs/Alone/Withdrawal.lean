import AccessGrants.Proofs.Alone.Grades
import AccessGrants.Proofs.Concurrency.Operations
import AccessGrants.Proofs.Store.Rows

/-!
# AccessGrants.Proofs.Alone.Withdrawal

An operation that fails leaves the store as it was, and has sent no event. There are two exceptions:
a submission whose grants fail has used up its preflight, and a revocation that the workflow refuses
has written which grants had expired.

* `createRequest_ensures`, `revokeRequest_ensures` — the two that may fail after they have written.
* `program_withdraws` — all others.
* `alone_failure`     — what every failed operation leaves behind.
-/

namespace AccessGrants

open Service

namespace MemoryStore

theorem requests_keyed (pageSize : Nat) (calls : List StoreCall) {k : String} {r : AccessRequest}
    (h : ((empty pageSize).run calls).requests[k]? = some r) : r.id = k :=
  (run_filed pageSize calls).requests k r h

end MemoryStore

namespace Compatibility

theorem targetSchema_looks (provider : Provider) : Looks (targetSchema provider) := by
  have hask : Looks (ask (.lookup provider)) := looks_ask (fun _ => nofun) rfl
  refine hask.bind ?_
  rintro (e | answer)
  · exact looks_throw _
  · dsimp only
    split
    · split
      · exact looks_pure _
      · exact looks_throw _
    · exact looks_throw _

theorem areCompatibleRefs_looks (a b : String) : Looks (areCompatibleRefs a b) := by
  rw [areCompatibleRefs]
  split
  · exact looks_throw _
  · split
    · exact looks_throw _
    · exact (targetSchema_looks _).bind fun _ => (targetSchema_looks _).bind fun _ => looks_pure _

end Compatibility

namespace Bindings

theorem getTargetGroup_looks (id : String) : Looks (getTargetGroup id) :=
  (looks_store rfl).bind fun _ => looks_orNotFound _ _

theorem ensureCompatible_looks (group : TargetGroup) (provider : Provider) :
    Looks (ensureCompatible group provider) := by
  refine (Compatibility.targetSchema_looks provider).bind fun schema => ?_
  split
  · exact looks_pure _
  · exact looks_throw _

theorem registrationGuard_looks (validation : SchemaValidation) (existing : Option Deployment)
    (d : Deployment) : Looks (registrationGuard validation existing d) := by
  rw [registrationGuard]
  split
  · exact looks_pure _
  · split
    · exact looks_pure _
    · exact (getTargetGroup_looks _).bind fun _ =>
        (ensureCompatible_looks _ _).bind fun _ => looks_pure _

theorem createTargetGroup_withdraws (id schemaRef : String) :
    Withdraws (createTargetGroup id schemaRef) := by
  refine (looks_store rfl).bind_withdraws fun found => ?_
  dsimp only
  split
  · exact fun _ _ h => ⟨rfl, h⟩
  · split
    · exact (looks_throw _).withdraws
    · refine (Compatibility.targetSchema_looks _).bind_withdraws fun schema => ?_
      refine looks_now.bind_withdraws fun now => ?_
      refine withdraws_ask_store (fun e => ?_) fun _ => certain_pure _
      cases e with
      | _ => exact (looks_throw _).withdraws

/-- Every attempt that is refused has left the store as it was, so the next one starts anew. -/
theorem registerWithin_withdraws (validation : SchemaValidation) (d : Deployment) (attempts : Nat) :
    Withdraws (registerWithin validation d attempts) := by
  induction attempts with
  | zero => exact (looks_throw _).withdraws
  | succ attempts ih =>
    rw [registerWithin]
    refine (looks_store rfl).bind_withdraws fun existing => ?_
    refine (registrationGuard_looks _ _ _).bind_withdraws fun guard => ?_
    refine withdraws_ask_store (fun e => ?_) certain_pure
    cases e with
    | conditionFailed => exact ih
    | _ => exact (looks_throw _).withdraws

theorem linkDeployment_withdraws (validation : SchemaValidation) (g id : String) (priority : Int) :
    Withdraws (linkDeployment validation g id priority) := by
  refine (getTargetGroup_looks g).bind_withdraws fun group => ?_
  refine (looks_store rfl).bind_withdraws fun found => ?_
  refine (looks_orNotFound _ _).bind_withdraws fun d => ?_
  refine (looks_store rfl).bind_withdraws fun linked => ?_
  dsimp only
  split
  · exact fun _ _ h => ⟨rfl, h⟩
  · split
    · exact (looks_throw _).withdraws
    · split
      case' isTrue => refine (ensureCompatible_looks group d.provider).bind_withdraws fun _ => ?_
      -- with or without a check of the schemas, the assignment is what is left
      all_goals
        refine withdraws_ask_store (fun e => ?_) fun _ => certain_pure _
        cases e with
        | _ => exact (looks_throw _).withdraws

theorem unlinkDeployment_withdraws (g id : String) : Withdraws (unlinkDeployment g id) := by
  refine withdraws_ask_store (fun e => ?_) certain_pure
  cases e with
  | _ => exact (looks_throw _).withdraws

end Bindings

namespace Preflights

theorem getPreflight_looks (user : User) (id : String) : Looks (getPreflight user id) :=
  (looks_store rfl).bind fun _ => looks_orNotFound _ _

theorem resolve_looks (user : User) (ids : List String) : Looks (resolve user ids) := by
  induction ids with
  | nil => exact looks_pure []
  | cons id rest ih =>
    have hask : Looks (call (.mayRequest user id)) := looks_call (fun _ => nofun) rfl
    refine hask.bind fun answer => (looks_verdict answer).bind fun allowed => ?_
    split
    · refine (looks_store rfl).bind fun found => (looks_orNotFound _ _).bind fun target => ?_
      exact ih.bind fun more => looks_pure _
    · exact (looks_count _).bind fun _ => looks_throw _

theorem nameGroups_looks (groups : List (String × List Target)) : Looks (nameGroups groups) := by
  induction groups with
  | nil => exact looks_pure []
  | cons group rest ih => exact looks_freshId.bind fun _ => ih.bind fun _ => looks_pure _

theorem createPreflight_withdraws (user : User) (ids : List String) :
    Withdraws (createPreflight user ids) := by
  rw [createPreflight]
  split
  · exact ((looks_count _).bind fun _ => looks_throw _).withdraws
  · split
    · exact ((looks_count _).bind fun _ => looks_throw _).withdraws
    · refine (resolve_looks user ids).bind_withdraws fun targets => ?_
      refine looks_now.bind_withdraws fun now => ?_
      have hdraft : Looks (draft user.id targets now) :=
        (nameGroups_looks _).bind fun _ => looks_freshId.bind fun _ => looks_pure _
      refine hdraft.bind_withdraws fun preflight => ?_
      refine (withdraws_store _).bind_certain fun _ => ?_
      exact (certain_count _).bind fun _ => certain_pure _

end Preflights

namespace ArgOptionCache

theorem load_looks (providerId argId : String) : Looks (load providerId argId) := by
  refine (looks_store rfl).bind fun found => ?_
  cases found with
  | none => exact looks_pure _
  | some cached => exact looks_pure _

/-- Nothing was written where the option source does not know the argument either. -/
theorem refresh_ensures (providerId argId : String) {s : MemoryStore} {past : Past}
    (h : Avoids Call.isOutward past) :
    (refresh providerId argId).Ensures
      (fun s' past' found => found.1 = true ∨ s' = s ∧ Avoids Call.isOutward past')
      (fun s' past' _ => s' = s ∧ Avoids Call.isOutward past') s past := by
  have hask : Looks (ask (.fetchOptions providerId argId)) := looks_ask (fun _ => nofun) rfl
  refine hask.ensures_bind h (fun answer past' h' => ?_) fun _ _ h' => ⟨rfl, h'⟩
  match answer with
  | .error detail =>
    refine (looks_count _).ensures_bind h' (fun _ _ h => ?_) fun _ _ h => ⟨rfl, h⟩
    exact ⟨rfl, h⟩
  | .ok none =>
    refine (looks_count _).ensures_bind h' (fun _ _ h => ?_) fun _ _ h => ⟨rfl, h⟩
    exact .inr ⟨rfl, h⟩
  | .ok (some options) =>
    refine looks_now.ensures_bind h' (fun now past₁ h₁ => ?_) fun _ _ h => ⟨rfl, h⟩
    rw [Service.ensures_bind]
    refine (withdraws_store _ s past₁ h₁).mono (fun s₂ past₂ _ _ => ?_) fun _ _ _ => id
    rw [Service.ensures_bind]
    refine (certain_count _ s₂ past₂).mono (fun _ _ _ _ => .inl rfl) fun _ _ _ => False.elim

theorem refresh_withdraws (providerId argId : String) : Withdraws (refresh providerId argId) :=
  fun _ _ h => (refresh_ensures providerId argId h).mono (fun _ _ _ _ => trivial) fun _ _ _ => id

theorem loadOrRefresh_ensures (providerId argId : String) {s : MemoryStore} {past : Past}
    (h : Avoids Call.isOutward past) :
    (loadOrRefresh providerId argId).Ensures
      (fun s' past' found => found.1 = true ∨ s' = s ∧ Avoids Call.isOutward past')
      (fun s' past' _ => s' = s ∧ Avoids Call.isOutward past') s past := by
  refine (load_looks providerId argId).ensures_bind h (fun found past' h' => ?_)
    fun _ _ h' => ⟨rfl, h'⟩
  obtain ⟨hit, options⟩ := found
  cases hit with
  | true => exact .inl rfl
  | false => exact refresh_ensures providerId argId h'

theorem listFor_withdraws (user : User) (providerId argId : String) (forced : Bool) :
    Withdraws (listFor user providerId argId forced) := by
  intro s past h
  have hend : ∀ (s' : MemoryStore) (past' : Past) (found : Bool × ArgOptions),
      found.1 = true ∨ s' = s ∧ Avoids Call.isOutward past' →
      (if found.1 then return found.2.visibleTo user.groups
        else throw (.notFound ("options for argument " ++ argId ++ " of provider " ++ providerId)) :
        Service ArgOptions).Ensures (fun _ _ _ => True)
        (fun s' past' _ => s' = s ∧ Avoids Call.isOutward past') s' past' := by
    rintro s' past' ⟨found, options⟩ (rfl | hsame)
    · trivial
    · cases found with
      | true => trivial
      | false => exact hsame
  cases forced with
  | true =>
    show Service.Ensures (_ >>= _) _ _ _ _
    rw [Service.ensures_bind]
    exact (refresh_ensures providerId argId h).mono hend fun _ _ _ => id
  | false =>
    show Service.Ensures (_ >>= _) _ _ _ _
    rw [Service.ensures_bind]
    exact (loadOrRefresh_ensures providerId argId h).mono hend fun _ _ _ => id

end ArgOptionCache

namespace Requests

/-- The submission has used up its preflight, which its owner could still use, and nothing else. -/
def UsesUp (user : User) (preflightId : String) (past : Past) (s s' : MemoryStore) : Prop :=
  ∃ p now, s.preflights[preflightId]? = some p ∧ p.userId = user.id ∧ p.consumedAt = none ∧
    ⟨.resource .now, some now⟩ ∈ past ∧
    s' = { s with preflights := s.preflights.insert preflightId { p with consumedAt := some now } }

/-- The grants of the request that had elapsed are expired, and nothing else has changed. -/
def OnlyExpires (id : String) (past : Past) (s s' : MemoryStore) : Prop :=
  ∃ r now, s.requests[id]? = some r ∧ ⟨.resource .now, some now⟩ ∈ past ∧
    s' = if (r.expireElapsed now).2 then
        { s with requests := s.requests.insert id (r.expireElapsed now).1 }
      else s

/-- A failure among the grants of several groups is one of the workflow. -/
theorem grantGroups_ensures (subject : Requester) (groups : List AccessGroup) {s : MemoryStore}
    {past : Past} (hr : Avoids Call.isRevoke past) (he : Avoids Call.isEmit past) :
    (grantGroups subject groups).Ensures (fun _ _ _ => True)
      (fun s' past' _ => s' = s ∧ GrantFailed past' ∧ Avoids Call.isRevoke past' ∧
        Avoids Call.isEmit past' ∧ past ⊆ past') s past := by
  induction groups generalizing past with
  | nil => trivial
  | cons group rest ih =>
    rw [grantGroups, Service.ensures_bind]
    refine ensures_call_of_not_store (by simp) ?_
    rintro (e | grants)
    · dsimp only
      rw [Service.ensures_bind]
      refine ensures_call_of_not_store (by simp) fun _ => ?_
      refine ⟨rfl, ⟨group, subject, e, ?_⟩, ?_, ?_, ?_⟩
      · simp
      · simp [hr, Call.isRevoke]
      · simp [he, Call.isEmit]
      · simp
    · dsimp only
      rw [Service.ensures_bind]
      refine (ih ?_ ?_).mono (fun _ _ _ _ => trivial) ?_
      · simp [hr, Call.isRevoke]
      · simp [he, Call.isEmit]
      · rintro s' past' e ⟨hs, hg, hr', he', hsub⟩
        exact ⟨hs, hg, hr', he', fun x hx => hsub (List.mem_cons_of_mem _ hx)⟩

theorem createRequest_ensures (policy : GrantPolicy) (user : User) (input : Submission)
    {s : MemoryStore} {past : Past} (h : Avoids Call.isOutward past) :
    (createRequest policy user input).Ensures (fun _ _ _ => True)
      (fun s' past' _ => Avoids Call.isEmit past' ∧ Avoids Call.isRevoke past' ∧
        (s' = s ∧ ¬ GrantFailed past' ∨
          GrantFailed past' ∧ UsesUp user input.preflightId past' s s')) s past := by
  have hsilent : ∀ past', Avoids Call.isOutward past' → Avoids Call.isEmit past' ∧
      Avoids Call.isRevoke past' ∧ (s = s ∧ ¬ GrantFailed past' ∨
        GrantFailed past' ∧ UsesUp user input.preflightId past' s s) :=
    fun past' h' =>
      have ⟨hg, hr, he⟩ := avoids_isOutward.mp h'
      ⟨he, hr, .inl ⟨rfl, hg.not_grantFailed⟩⟩
  have hread : Looks (store (.getPreflight input.preflightId user.id)) := looks_store rfl
  refine hread.ensures_bind h (fun found past₁ h₁ => ?_) fun past' _ h' => hsilent past' h'
  refine (looks_orNotFound _ found).ensures_bind h₁ (fun p past₂ h₂ => ?_)
    fun past' _ h' => hsilent past' h'
  dsimp only
  split
  · refine (looks_count _).ensures_bind h₂ (fun _ past' h' => ?_) fun past' _ h' => hsilent past' h'
    exact hsilent past' h'
  rw [Service.ensures_bind]
  refine ensures_call_of_not_store (by simp) fun now => ?_
  rw [Service.ensures_bind]
  have hclaim : ∀ reply, Avoids Call.isOutward
      (⟨.resource (.store (.claimPreflight input.preflightId user.id now)), reply⟩ ::
        ⟨.resource .now, some now⟩ :: past₂) :=
    fun _ => avoids_cons.mpr ⟨rfl, avoids_cons.mpr ⟨rfl, h₂⟩⟩
  refine ensures_store (fun claimed hc => ?_) fun e hc => by cases hc
  cases hget : s.getPreflight input.preflightId user.id with
  | none =>
    simp only [MemoryStore.perform, MemoryStore.claimPreflight, hget] at hc ⊢
    cases hc
    exact (looks_count _).ensures_bind (hclaim _) (fun _ past' h' => hsilent past' h')
      fun past' _ h' => hsilent past' h'
  | some q =>
    simp only [MemoryStore.perform, MemoryStore.claimPreflight, hget] at hc ⊢
    cases hc
    dsimp only
    rw [Service.ensures_bind]
    refine ensures_call_of_not_store (by simp) fun id => ?_
    rw [Service.ensures_bind]
    have hstored : s.preflights[input.preflightId]? = some q ∧ q.usableBy user.id = true := by
      simpa [MemoryStore.getPreflight, Option.filter_eq_some_iff] using hget
    have howner : q.userId = user.id ∧ q.consumedAt = none := by
      simpa [Preflight.usableBy, Preflight.isConsumed] using hstored.2
    have ⟨_, hrevoke, hemit⟩ := avoids_isOutward.mp h₂
    refine (grantGroups_ensures _ _ ?_ ?_).mono ?_ ?_
    · simp [hrevoke, Call.isRevoke]
    · simp [hemit, Call.isEmit]
    · intro s' past' groups _
      refine (Certain.bind (certain_store (by simp [MemoryStore.perform])) fun _ => ?_) s' past'
        |>.mono (fun _ _ _ h => h) fun _ _ _ => False.elim
      refine (certain_count _).bind fun _ => (certain_count _).bind fun _ => ?_
      exact (certain_emit _).bind fun _ => certain_pure _
    · rintro s' past' e ⟨rfl, hg, hr, he, hsub⟩
      refine ⟨he, hr, .inr ⟨hg, q, now, hstored.1, howner.1, howner.2, hsub ?_, rfl⟩⟩
      simp

theorem visibleRequest_ensures (user : User) (id : String) {s : MemoryStore} {past : Past}
    (h : Avoids Call.isOutward past) :
    (visibleRequest user id).Ensures
      (fun s' past' r => s' = s ∧ Avoids Call.isOutward past' ∧ s.requests[id]? = some r)
      (fun s' past' _ => s' = s ∧ Avoids Call.isOutward past') s past := by
  rw [visibleRequest, Service.ensures_bind]
  refine ensures_store (fun found hfound => ?_) fun e he => by cases he
  have h₁ : Avoids Call.isOutward
      (⟨.resource (.store (.getRequest id)), some (.ok found)⟩ :: past) :=
    avoids_cons.mpr ⟨rfl, h⟩
  cases hfound
  rw [Service.ensures_bind, ensures_orNotFound]
  refine ⟨fun r hr => ?_, fun _ => ⟨rfl, h₁⟩⟩
  split
  · exact ⟨rfl, h₁, hr⟩
  · have hadmin : Looks (call (.isAdmin user)) := looks_call (by simp) rfl
    have hreviewer : Looks (call (.isReviewer user r)) := looks_call (by simp) rfl
    refine hadmin.ensures_bind h₁ (fun answer past₂ h₂ => ?_) fun _ _ h' => ⟨rfl, h'⟩
    refine (looks_verdict answer).ensures_bind h₂ (fun allowed past₃ h₃ => ?_)
      fun _ _ h' => ⟨rfl, h'⟩
    split
    · exact ⟨rfl, h₃, hr⟩
    · refine hreviewer.ensures_bind h₃ (fun answer past₄ h₄ => ?_) fun _ _ h' => ⟨rfl, h'⟩
      refine (looks_verdict answer).ensures_bind h₄ (fun allowed past₅ h₅ => ?_)
        fun _ _ h' => ⟨rfl, h'⟩
      split
      · exact ⟨rfl, h₅, hr⟩
      · exact ⟨rfl, h₅⟩

theorem emitRevoked_certain (requestId actorId : String) (grants : List Grant) :
    Certain (emitRevoked requestId actorId grants) := by
  induction grants with
  | nil => exact certain_pure ()
  | cons grant rest ih => exact (certain_emit _).bind fun _ => ih

/-- What a refused revocation still writes. -/
theorem refusal_ensures {id : String} {r : AccessRequest} {now : Instant} {s : MemoryStore}
    {past : Past} (hid : r.id = id) (hr : s.requests[id]? = some r)
    (hnow : ⟨.resource .now, some now⟩ ∈ past) (hfailed : RevokeFailed past)
    (hemit : Avoids Call.isEmit past) (hgrant : Avoids Call.isGrant past) (e : ServiceError) :
    (do
      if (r.expireElapsed now).2 then Service.store (.putRequest (r.expireElapsed now).1)
      throw e : Service AccessRequest).Ensures (fun _ _ _ => True)
      (fun s' past' _ => Avoids Call.isEmit past' ∧ Avoids Call.isGrant past' ∧
        RevokeFailed past' ∧ OnlyExpires id past' s s') s past := by
  split
  · rename_i hexpired
    have hkept : (r.expireElapsed now).1.id = id := by
      rw [← hid, AccessRequest.expireElapsed]
      split <;> rfl
    rw [Service.ensures_bind]
    refine ensures_store (fun _ _ => ?_) fun e he => by cases he
    refine ⟨avoids_cons.mpr ⟨rfl, hemit⟩, avoids_cons.mpr ⟨rfl, hgrant⟩, hfailed.cons, r, now, hr,
      List.mem_cons_of_mem _ hnow, ?_⟩
    rw [if_pos hexpired, MemoryStore.perform, hkept]
  · rename_i hexpired
    exact ⟨hemit, hgrant, hfailed, r, now, hr, hnow, by rw [if_neg hexpired]⟩

theorem revokeRequest_ensures (actor : User) (id : String) {s : MemoryStore} {past : Past}
    (hkeyed : ∀ r, s.requests[id]? = some r → r.id = id) (h : Avoids Call.isOutward past) :
    (revokeRequest actor id).Ensures (fun _ _ _ => True)
      (fun s' past' _ => Avoids Call.isEmit past' ∧ Avoids Call.isGrant past' ∧
        (s' = s ∧ ¬ RevokeFailed past' ∨ RevokeFailed past' ∧ OnlyExpires id past' s s')) s past := by
  rw [revokeRequest, Service.ensures_bind]
  refine (visibleRequest_ensures actor id h).mono ?_ ?_
  · rintro s₁ past₁ r ⟨rfl, h₁, hr⟩
    have ⟨hgrant, _, hemit⟩ := avoids_isOutward.mp h₁
    rw [Service.ensures_bind]
    refine ensures_call_of_not_store (by simp) fun now => ?_
    dsimp only
    rw [Service.ensures_bind]
    refine ensures_call_of_not_store (by simp) ?_
    rintro (e | revoked)
    · refine (refusal_ensures (hkeyed r hr) hr ?_ ⟨_, _, _, e, List.mem_cons_self⟩ ?_ ?_ _).mono
        (fun _ _ _ h => h) fun s' past' _ ⟨he, hg, hrest⟩ => ⟨he, hg, .inr hrest⟩
      · simp
      · simp [hemit, Call.isEmit]
      · simp [hgrant, Call.isGrant]
    · dsimp only
      refine (Certain.bind (certain_store (by simp [MemoryStore.perform])) fun _ => ?_) _ _
        |>.mono (fun _ _ _ h => h) fun _ _ _ => False.elim
      exact (certain_count _).bind fun _ => (emitRevoked_certain _ _ _).bind fun _ => certain_pure _
  · rintro s' past' e ⟨rfl, h'⟩
    have ⟨hgrant, hrevoke, hemit⟩ := avoids_isOutward.mp h'
    exact ⟨hemit, hgrant, .inl ⟨rfl, hrevoke.not_revokeFailed⟩⟩

theorem getRequestFor_looks (user : User) (id : String) : Looks (getRequestFor user id) := by
  intro s past h
  rw [getRequestFor, Service.ensures_bind]
  refine (visibleRequest_ensures user id h).mono ?_ fun _ _ _ h' => h'
  rintro s' past' r ⟨rfl, h', -⟩
  exact (looks_now.bind fun now => looks_pure _) s' past' h'

end Requests

/-- Everything a caller can ask for: an operation, or one of the two halves of a listing of
argument options. -/
inductive Errand where
  | operation (o : Operation)
  | load (providerId argId : String)
  | refresh (providerId argId : String)

namespace Errand

abbrev Result : Errand → Type
  | operation o => o.Result
  | load _ _ | refresh _ _ => Bool × ArgOptions

def program (rules : ServiceRules) : (o : Errand) → Service o.Result
  | operation o => o.program rules
  | load providerId argId => ArgOptionCache.load providerId argId
  | refresh providerId argId => ArgOptionCache.refresh providerId argId

/-- All but two operations withdraw. -/
theorem program_withdraws (rules : ServiceRules) (o : Errand) :
    (∃ user input, o = .operation (.createRequest user input)) ∨
      (∃ actor id, o = .operation (.revokeRequest actor id)) ∨ Withdraws (o.program rules) := by
  cases o with
  | load p a => exact .inr (.inr (ArgOptionCache.load_looks p a).withdraws)
  | refresh p a => exact .inr (.inr (ArgOptionCache.refresh_withdraws p a))
  | operation o =>
    cases o with
    | createRequest user input => exact .inl ⟨user, input, rfl⟩
    | revokeRequest actor id => exact .inr (.inl ⟨actor, id, rfl⟩)
    | createPreflight user ids => exact .inr (.inr (Preflights.createPreflight_withdraws user ids))
    | getPreflight user id => exact .inr (.inr (Preflights.getPreflight_looks user id).withdraws)
    | getRequest user id => exact .inr (.inr (Requests.getRequestFor_looks user id).withdraws)
    | listRequestsFor user page =>
      exact .inr (.inr ((looks_store rfl).bind fun _ => looks_now.bind fun _ =>
        looks_pure _).withdraws)
    | listRequests page =>
      exact .inr (.inr ((looks_store rfl).bind fun _ => looks_now.bind fun _ =>
        looks_pure _).withdraws)
    | createTargetGroup id ref => exact .inr (.inr (Bindings.createTargetGroup_withdraws id ref))
    | getTargetGroup id => exact .inr (.inr (Bindings.getTargetGroup_looks id).withdraws)
    | listTargetGroups page => exact .inr (.inr (looks_store rfl).withdraws)
    | registerDeployment d => exact .inr (.inr (Bindings.registerWithin_withdraws _ d _))
    | linkDeployment g id p => exact .inr (.inr (Bindings.linkDeployment_withdraws _ g id p))
    | unlinkDeployment g id => exact .inr (.inr (Bindings.unlinkDeployment_withdraws g id))
    | areCompatible a b => exact .inr (.inr (Compatibility.areCompatibleRefs_looks a b).withdraws)
    | listTargets user page =>
      exact .inr (.inr ((looks_store rfl).bind fun _ => looks_pure _).withdraws)
    | putTarget target => exact .inr (.inr ((withdraws_store _).bind_certain fun _ => certain_pure _))
    | listArgOptions user p a forced =>
      exact .inr (.inr (ArgOptionCache.listFor_withdraws user p a forced))

/-- Starting from any store that calls of it can bring about, an errand that fails has sent no
event. Unless the workflow failed, the store is what it was. -/
theorem alone_failure {rules : ServiceRules} {pageSize : Nat} {calls : List StoreCall}
    {moments : List Moment} {o : Errand} {e : ServiceError} {s s' : MemoryStore} {past : Past}
    (hs : s = (MemoryStore.empty pageSize).run calls)
    (hrun : (o.program rules).run.alone moments s [] = some (.error e, s', past)) :
    Avoids Call.isEmit past ∧
      (¬ GrantFailed past → ¬ RevokeFailed past → s' = s) ∧
      (GrantFailed past → ∃ user input, o = .operation (.createRequest user input) ∧
        Requests.UsesUp user input.preflightId past s s') ∧
      (RevokeFailed past → ∃ actor id, o = .operation (.revokeRequest actor id) ∧
        Requests.OnlyExpires id past s s') := by
  rcases program_withdraws rules o with ⟨user, input, rfl⟩ | ⟨actor, id, rfl⟩ | hw
  · have hend := Interaction.ensures_of_alone
      (Requests.createRequest_ensures rules.policy user input avoids_nil) hrun
    obtain ⟨hemit, hrevoke, ⟨rfl, hgrant⟩ | ⟨hgrant, huses⟩⟩ := hend
    · exact ⟨hemit, fun _ _ => rfl, fun h => absurd h hgrant,
        fun h => absurd h hrevoke.not_revokeFailed⟩
    · exact ⟨hemit, fun h => absurd hgrant h, fun _ => ⟨user, input, rfl, huses⟩,
        fun h => absurd h hrevoke.not_revokeFailed⟩
  · have hkeyed : ∀ r, s.requests[id]? = some r → r.id = id := by
      subst hs
      exact fun r => MemoryStore.requests_keyed pageSize calls
    have hend := Interaction.ensures_of_alone
      (Requests.revokeRequest_ensures actor id hkeyed avoids_nil) hrun
    obtain ⟨hemit, hgrant, ⟨rfl, hrevoke⟩ | ⟨hrevoke, hexpires⟩⟩ := hend
    · exact ⟨hemit, fun _ _ => rfl, fun h => absurd h hgrant.not_grantFailed,
        fun h => absurd h hrevoke⟩
    · exact ⟨hemit, fun _ h => absurd hrevoke h, fun h => absurd h hgrant.not_grantFailed,
        fun _ => ⟨actor, id, rfl, hexpires⟩⟩
  · obtain ⟨rfl, hout⟩ := Interaction.ensures_of_alone (hw s [] avoids_nil) hrun
    have ⟨hgrant, hrevoke, hemit⟩ := avoids_isOutward.mp hout
    exact ⟨hemit, fun _ _ => rfl, fun h => absurd h hgrant.not_grantFailed,
      fun h => absurd h hrevoke.not_revokeFailed⟩

namespace Outage

/-! A submission while the workflow is down. -/

def alice : User := ⟨"alice", "alice@example.org", ∅⟩

def draft : Preflight := ⟨"p", "alice", ["t"], [⟨"g", "rule", []⟩], ⟨0, 0⟩, none⟩

def start : MemoryStore := (MemoryStore.empty 10).run [.putPreflight draft]

def down : Moment :=
  ⟨{ Surroundings.plain with grant := fun _ _ => some (.error (.failed "down")) }, ⟨60, 0⟩⟩

def errand : Errand := .operation (.createRequest alice ⟨"p", none, []⟩)

def outcome : Option (Except ServiceError AccessRequest × MemoryStore × Past) :=
  (errand.program ⟨.deferred, .standard⟩).run.alone (List.replicate 6 down) start []

def isFailedGrant : Exchange Call.Reply → Bool
  | ⟨.grant _ _, some (.error _)⟩ => true
  | _ => false

theorem grantFailed_of_any {past : Past} (h : past.any isFailedGrant = true) : GrantFailed past := by
  obtain ⟨⟨c, reply⟩, he, hf⟩ := List.any_eq_true.mp h
  cases c with
  | grant g s =>
    match reply with
    | some (.error e) => exact ⟨g, s, e, he⟩
    | some (.ok _) => cases hf
    | none => cases hf
  | _ => cases hf

theorem outcome_fails :
    outcome.map (fun o => (o.1.toOption.isNone, o.2.2.any isFailedGrant)) = some (true, true) := by
  decide +kernel

theorem submission_uses_up : ∃ e s' past, outcome = some (.error e, s', past) ∧
    Requests.UsesUp alice "p" past start s' := by
  obtain ⟨⟨r, s', past⟩, hrun, hfails⟩ := Option.map_eq_some_iff.mp outcome_fails
  obtain ⟨hr, hg⟩ := Prod.mk.inj hfails
  cases r with
  | ok request => cases hr
  | error e =>
    have hstart : start = (MemoryStore.empty 10).run [.putPreflight draft] := rfl
    obtain ⟨-, -, hgrant, -⟩ := alone_failure hstart hrun
    obtain ⟨user, input, heq, huses⟩ := hgrant (grantFailed_of_any hg)
    cases heq
    exact ⟨e, s', past, hrun, huses⟩

end Outage

end Errand

end AccessGrants
