import AccessGrants.Http.Server

/-!
# AccessGrants.Proofs.Http.Concealment

What a collaborator says of its own failure is never part of a response. Two collaborators that fail
alike are told apart only by their texts, so the responses are compared call by call while the texts
are replaced.

* `Call.retell`        — a reply with another text of failure.
* `Elsewhere`          — everyone else, as they answer in view of the calls so far.
* `Interaction.Pairs`  — two programs that make the same calls while the second is told other texts.
* `Alike`              — the same of programs with errors; errors of one appearance are not told apart.
                         There is one rule for each way to build an operation or a handler.
* `serve_conceals`     — every response, and every call on the way to it, is the same.
-/

namespace AccessGrants

/-! ## Other texts -/

namespace StoreError

def retell (text : String) : StoreError → StoreError
  | backend _ => backend text
  | e => e

end StoreError

namespace RegistryError

def retell (text : String) : RegistryError → RegistryError
  | transport _ => transport text
  | decode _ => decode text
  | other _ => other text

end RegistryError

namespace RegistryAnswer

/-- The body of an answer that is not a success with a document. -/
def retell (text : String) (a : RegistryAnswer) : RegistryAnswer :=
  if a.isSuccess ∧ a.detail.isSome then a else { a with body := text }

end RegistryAnswer

namespace WorkflowError

def retell (text : String) : WorkflowError → WorkflowError
  | failed _ => failed text
  | e => e

end WorkflowError

namespace Call

/-- The reply with another text of failure; one that is no failure stays as it is. -/
def retell (text : String) : (c : Call) → c.Reply → c.Reply
  | .resource (.store _), reply => reply.mapError (StoreError.retell text)
  | .resource (.lookup _), reply => (reply.map (RegistryAnswer.retell text)).mapError (RegistryError.retell text)
  | .resource (.fetchOptions _ _), reply => reply.mapError fun _ => text
  | .resource (.emit _), reply => reply.mapError fun _ => text
  | .resource .now, reply => reply
  | .resource .freshId, reply => reply
  | .resource (.count _), reply => reply
  | .grant _ _, reply => reply.mapError (WorkflowError.retell text)
  | .revoke _ _ _, reply => reply.mapError (WorkflowError.retell text)
  | .mayRequest _ _, reply => reply.mapError fun _ => text
  | .isAdmin _, reply => reply.mapError fun _ => text
  | .isReviewer _ _, reply => reply.mapError fun _ => text

example (c : StoreCall) : Call.retell "disk full" (.resource (.store c)) (.error (.backend "down")) =
    .error (.backend "disk full") := rfl

end Call

/-- Everyone else: what is answered to a call, in view of the calls before it, the newest first. A
store with some content, for instance, holds what these calls have made of it. A call may also never
return. -/
abbrev Elsewhere := List Call → (c : Call) → Option c.Reply

namespace Elsewhere

/-- The same, with another text for every failure. -/
def retold (texts : List Call → Call → String) (x : Elsewhere) : Elsewhere :=
  fun calls c => (x calls c).map (c.retell (texts calls c))

end Elsewhere

namespace Interaction

/-- A run, with all its calls. There is none where the program overflows and where a call never
returns. -/
def answeredBy (x : Elsewhere) : List Call → Proc α → Option (α × List Call)
  | calls, done a => some (a, calls)
  | calls, step c next =>
    match x calls c with
    | some r => answeredBy x (c :: calls) (next r)
    | none => none
  | _, overflow => none

/-- Both programs make the same calls when the second one is told other texts, and end alike. -/
inductive Pairs (post : α → β → Prop) : Proc α → Proc β → Prop
  | done {a : α} {b : β} : post a b → Pairs post (.done a) (.done b)
  | step {c : Call} {next : c.Reply → Proc α} {next' : c.Reply → Proc β} :
      (∀ r text, Pairs post (next r) (next' (c.retell text r))) →
      Pairs post (.step c next) (.step c next')
  | overflow : Pairs post .overflow .overflow

theorem Pairs.mono {post post' : α → β → Prop} {p : Proc α} {p' : Proc β} (h : Pairs post p p')
    (hp : ∀ a b, post a b → post' a b) : Pairs post' p p' := by
  induction h with
  | done h => exact .done (hp _ _ h)
  | step _ ih => exact .step ih
  | overflow => exact .overflow

theorem Pairs.bind {post : γ → δ → Prop} {p : Proc α} {p' : Proc β} {f : α → Proc γ}
    {f' : β → Proc δ} (h : Pairs (fun a b => Pairs post (f a) (f' b)) p p') :
    Pairs post (p >>= f) (p' >>= f') := by
  induction h with
  | done h => exact h
  | step _ ih => exact .step ih
  | overflow => exact .overflow

/-- Programs that end equal do so in the same run, whatever the texts are. -/
theorem answeredBy_retold {p p' : Proc α} (h : Pairs (· = ·) p p') (x : Elsewhere)
    (texts : List Call → Call → String) (calls : List Call) :
    p'.answeredBy (x.retold texts) calls = p.answeredBy x calls := by
  induction h generalizing calls with
  | done h => rw [answeredBy, answeredBy, h]
  | overflow => rfl
  | @step c next next' _ ih =>
    rw [answeredBy, answeredBy, Elsewhere.retold]
    cases x calls c with
    | none => rfl
    | some r => exact ih r (texts calls c) (c :: calls)

end Interaction

/-! ## Programs with errors -/

section Alike

variable {ε : Type} {shown : ε → Answer}

/-- Both programs make the same calls, and return the same or fail with errors that show the same. -/
def Alike (shown : ε → Answer) (p p' : ExceptT ε Proc α) : Prop :=
  Interaction.Pairs (fun r r' => r.mapError shown = r'.mapError shown) p.run p'.run

theorem alike_pure (a : α) : Alike shown (pure a) (pure a) := .done rfl

theorem alike_throw {e e' : ε} (h : shown e = shown e') :
    Alike shown (throw e : ExceptT ε Proc α) (throw e') :=
  .done (congrArg Except.error h)

theorem Alike.bind {p p' : ExceptT ε Proc α} {f f' : α → ExceptT ε Proc β} (h : Alike shown p p')
    (hf : ∀ a, Alike shown (f a) (f' a)) : Alike shown (p >>= f) (p' >>= f') := by
  refine Interaction.Pairs.bind (Interaction.Pairs.mono h fun r r' hr => ?_)
  cases r with
  | ok a =>
    cases r' with
    | ok a' =>
      cases hr
      exact hf a
    | error e' => cases hr
  | error e =>
    cases r' with
    | ok a' => cases hr
    | error e' => exact .done (congrArg Except.error (Except.error.inj hr))

/-- What follows a call goes on alike, whatever the text of a failure is. -/
theorem alike_call {c : Call} {f f' : c.Reply → ExceptT ε Proc α}
    (h : ∀ r text, Alike shown (f r) (f' (c.retell text r))) :
    Alike shown (ExceptT.lift (Proc.call c) >>= f) (ExceptT.lift (Proc.call c) >>= f') :=
  .step h

end Alike

/-! ## Operations -/

namespace ServiceError

/-- How the error is answered. -/
def shown (e : ServiceError) : Answer :=
  (Refusal.error (HttpError.ofService e)).answer

theorem shown_store_retell (text : String) (e : StoreError) :
    shown (.store e) = shown (.store (e.retell text)) := by
  cases e <;> rfl

theorem shown_ofWorkflow_retell (text : String) (e : WorkflowError) :
    shown (.ofWorkflow e) = shown (.ofWorkflow (e.retell text)) := by
  cases e <;> rfl

end ServiceError

namespace Service

/-- An operation whose texts of failures are not shown. -/
def Conceals (p : Service α) : Prop :=
  Alike ServiceError.shown p p

theorem conceals_pure (a : α) : Conceals (pure a) := alike_pure a

theorem conceals_throw (e : ServiceError) : Conceals (throw e : Service α) := alike_throw rfl

theorem Conceals.bind {p : Service α} {f : α → Service β} (hp : p.Conceals)
    (hf : ∀ a, (f a).Conceals) : (p >>= f).Conceals :=
  Alike.bind hp hf

/-- A call that has no text of failure. -/
theorem conceals_ask {r : Resource} (h : ∀ text reply, (Call.resource r).retell text reply = reply) :
    (ask r).Conceals := by
  refine .step fun reply text => ?_
  rw [h]
  exact .done rfl

theorem conceals_now : now.Conceals := conceals_ask fun _ _ => rfl

theorem conceals_freshId : freshId.Conceals := conceals_ask fun _ _ => rfl

theorem conceals_count (metric : Metric) : (count metric).Conceals := conceals_ask fun _ _ => rfl

theorem conceals_emit (event : AccessEvent) : (emit event).Conceals :=
  alike_call fun _ _ => conceals_pure ()

theorem conceals_orNotFound (what : String) (found : Option α) : (orNotFound what found).Conceals := by
  cases found with
  | none => exact conceals_throw _
  | some a => exact conceals_pure a

/-- What follows a call of the store may look at the kind of its failure. -/
theorem conceals_ask_store {c : StoreCall} {f : c.Reply → Service α}
    (ho : ∀ a, (f (.ok a)).Conceals)
    (he : ∀ e text, Alike ServiceError.shown (f (.error e)) (f (.error (e.retell text)))) :
    (ask (.store c) >>= f).Conceals := by
  refine alike_call fun reply text => ?_
  cases reply with
  | ok a => exact ho a
  | error e => exact he e text

theorem conceals_store (c : StoreCall) : (store c).Conceals :=
  conceals_ask_store conceals_pure fun e text => alike_throw (ServiceError.shown_store_retell text e)

/-- A verdict of the authorizer, or its failure. -/
theorem alike_verdict {f : Bool → Service α} (hf : ∀ b, (f b).Conceals) (answer : Except String Bool)
    (text : String) : Alike ServiceError.shown (verdict answer >>= f)
      (verdict (answer.mapError fun _ => text) >>= f) := by
  cases answer with
  | ok b => exact hf b
  | error detail => exact Alike.bind (alike_throw rfl) hf

theorem conceals_mayRequest (user : User) (id : String) {f : Bool → Service α}
    (hf : ∀ b, (f b).Conceals) :
    (call (.mayRequest user id) >>= fun answer => verdict answer >>= f).Conceals :=
  alike_call fun answer text => alike_verdict hf answer text

theorem conceals_isAdmin (user : User) {f : Bool → Service α} (hf : ∀ b, (f b).Conceals) :
    (call (.isAdmin user) >>= fun answer => verdict answer >>= f).Conceals :=
  alike_call fun answer text => alike_verdict hf answer text

theorem conceals_isReviewer (user : User) (request : AccessRequest) {f : Bool → Service α}
    (hf : ∀ b, (f b).Conceals) :
    (call (.isReviewer user request) >>= fun answer => verdict answer >>= f).Conceals :=
  alike_call fun answer text => alike_verdict hf answer text

end Service

open Service

namespace Compatibility

/-- What is made of an answer of the registry. -/
def read (provider : Provider) (answer : RegistryAnswer) : Service Json :=
  match answer.detail with
  | some detail =>
    if answer.isSuccess then return detail.target else throw (targetSchema.refused provider answer)
  | none => throw (targetSchema.refused provider answer)

theorem read_of_refused {provider : Provider} {answer : RegistryAnswer}
    (h : ¬ (answer.isSuccess = true ∧ answer.detail.isSome = true)) :
    read provider answer = throw (targetSchema.refused provider answer) := by
  rw [read]
  split
  · rename_i detail hdetail
    rw [if_neg fun hsuccess => h ⟨hsuccess, by rw [hdetail]; rfl⟩]
  · rfl

theorem read_conceals (provider : Provider) (answer : RegistryAnswer) :
    (read provider answer).Conceals := by
  rw [read]
  split
  · split
    · exact conceals_pure _
    · exact conceals_throw _
  · exact conceals_throw _

/-- Only the body of a refused answer is told differently, and it is not shown. -/
theorem targetSchema_conceals (provider : Provider) : (targetSchema provider).Conceals := by
  refine alike_call (c := .resource (.lookup provider)) ?_
  rintro (e | answer) text
  · exact alike_throw rfl
  · show Alike _ (read provider answer) (read provider (answer.retell text))
    by_cases h : answer.isSuccess = true ∧ answer.detail.isSome = true
    · rw [RegistryAnswer.retell, if_pos h]
      exact read_conceals provider answer
    · have hretold : read provider { answer with body := text } =
          throw (targetSchema.refused provider { answer with body := text }) := read_of_refused h
      rw [RegistryAnswer.retell, if_neg h, read_of_refused h, hretold]
      exact alike_throw rfl

end Compatibility

namespace ArgOptionCache

theorem load_conceals (providerId argId : String) : (load providerId argId).Conceals := by
  refine (conceals_store _).bind fun cached => ?_
  cases cached with
  | none => exact conceals_pure _
  | some options => exact conceals_pure _

theorem refresh_conceals (providerId argId : String) : (refresh providerId argId).Conceals := by
  refine alike_call (c := .resource (.fetchOptions providerId argId)) ?_
  rintro (detail | _ | options) text
  · exact Alike.bind (conceals_count _) fun _ => alike_throw rfl
  · exact (conceals_count _).bind fun _ => conceals_pure _
  · exact conceals_now.bind fun _ => (conceals_store _).bind fun _ => (conceals_count _).bind fun _ =>
      conceals_pure _

theorem loadOrRefresh_conceals (providerId argId : String) :
    (loadOrRefresh providerId argId).Conceals := by
  refine (load_conceals providerId argId).bind ?_
  rintro ⟨hit, options⟩
  cases hit with
  | true => exact conceals_pure _
  | false => exact refresh_conceals providerId argId

theorem listFor_conceals (user : User) (providerId argId : String) (forced : Bool) :
    (listFor user providerId argId forced).Conceals := by
  have hshow : ∀ found : Bool × ArgOptions, Conceals
      (if found.1 = true then pure (found.2.visibleTo user.groups)
        else throw (.notFound ("options for argument " ++ argId ++ " of provider " ++ providerId)) :
        Service ArgOptions) := by
    intro found
    split
    · exact conceals_pure _
    · exact conceals_throw _
  rw [listFor]
  split
  · exact (refresh_conceals providerId argId).bind hshow
  · exact (loadOrRefresh_conceals providerId argId).bind hshow

end ArgOptionCache

namespace Bindings

theorem getTargetGroup_conceals (id : String) : (getTargetGroup id).Conceals :=
  (conceals_store _).bind fun found => conceals_orNotFound _ found

theorem ensureCompatible_conceals (group : TargetGroup) (provider : Provider) :
    (ensureCompatible group provider).Conceals := by
  refine (Compatibility.targetSchema_conceals provider).bind fun schema => ?_
  split
  · exact conceals_pure _
  · exact conceals_throw _

theorem registrationGuard_conceals (validation : SchemaValidation) (existing : Option Deployment)
    (d : Deployment) : (registrationGuard validation existing d).Conceals := by
  rw [registrationGuard]
  split
  · exact conceals_pure _
  · split
    · exact conceals_pure _
    · exact (getTargetGroup_conceals _).bind fun _ => (ensureCompatible_conceals _ _).bind fun _ =>
        conceals_pure _

theorem createTargetGroup_conceals (id schemaRef : String) :
    (createTargetGroup id schemaRef).Conceals := by
  refine (conceals_store _).bind fun found => ?_
  dsimp only
  split
  · exact conceals_throw _
  · split
    · exact conceals_throw _
    · refine (Compatibility.targetSchema_conceals _).bind fun schema => conceals_now.bind fun now => ?_
      refine conceals_ask_store (fun _ => conceals_pure _) fun e text => ?_
      cases e with
      | _ => exact alike_throw rfl

/-- A failed condition starts the next attempt, and any other failure ends the registration. -/
theorem registerWithin_conceals (validation : SchemaValidation) (d : Deployment) (attempts : Nat) :
    (registerWithin validation d attempts).Conceals := by
  induction attempts with
  | zero => exact conceals_throw _
  | succ attempts ih =>
    rw [registerWithin]
    refine (conceals_store _).bind fun existing => ?_
    refine (registrationGuard_conceals _ _ _).bind fun guard => ?_
    refine conceals_ask_store conceals_pure fun e text => ?_
    cases e with
    | conditionFailed => exact ih
    | _ => exact alike_throw rfl

theorem linkDeployment_conceals (validation : SchemaValidation) (g id : String) (priority : Int) :
    (linkDeployment validation g id priority).Conceals := by
  refine (getTargetGroup_conceals g).bind fun group => (conceals_store _).bind fun found => ?_
  refine (conceals_orNotFound _ found).bind fun d => (conceals_store _).bind fun linked => ?_
  dsimp only
  split
  · exact conceals_throw _
  · split
    · exact conceals_throw _
    · split
      case' isTrue => refine (ensureCompatible_conceals group d.provider).bind fun _ => ?_
      -- with or without a check of the schemas, the assignment is what is left
      all_goals
        refine conceals_ask_store (fun _ => conceals_pure _) fun e text => ?_
        cases e with
        | _ => exact alike_throw rfl

theorem unlinkDeployment_conceals (g id : String) : (unlinkDeployment g id).Conceals := by
  refine conceals_ask_store conceals_pure fun e text => ?_
  cases e with
  | _ => exact alike_throw rfl

end Bindings

namespace Preflights

theorem resolve_conceals (user : User) (ids : List String) : (resolve user ids).Conceals := by
  induction ids with
  | nil => exact conceals_pure []
  | cons id rest ih =>
    refine conceals_mayRequest user id fun allowed => ?_
    split
    · exact (conceals_store _).bind fun found => (conceals_orNotFound _ found).bind fun _ =>
        ih.bind fun _ => conceals_pure _
    · exact (conceals_count _).bind fun _ => conceals_throw _

theorem nameGroups_conceals (groups : List (String × List Target)) :
    (nameGroups groups).Conceals := by
  induction groups with
  | nil => exact conceals_pure []
  | cons group rest ih => exact conceals_freshId.bind fun _ => ih.bind fun _ => conceals_pure _

theorem createPreflight_conceals (user : User) (ids : List String) :
    (createPreflight user ids).Conceals := by
  rw [createPreflight]
  split
  · exact (conceals_count _).bind fun _ => conceals_throw _
  · split
    · exact (conceals_count _).bind fun _ => conceals_throw _
    · refine (resolve_conceals user ids).bind fun targets => conceals_now.bind fun now => ?_
      have hdraft : (draft user.id targets now).Conceals :=
        (nameGroups_conceals _).bind fun _ => conceals_freshId.bind fun _ => conceals_pure _
      exact hdraft.bind fun _ => (conceals_store _).bind fun _ => (conceals_count _).bind fun _ =>
        conceals_pure _

end Preflights

namespace Requests

theorem grantGroups_conceals (subject : Requester) (groups : List AccessGroup) :
    (grantGroups subject groups).Conceals := by
  induction groups with
  | nil => exact conceals_pure []
  | cons group rest ih =>
    refine alike_call (c := .grant group subject) ?_
    rintro (e | grants) text
    · exact Alike.bind (conceals_count _) fun _ =>
        alike_throw (ServiceError.shown_ofWorkflow_retell text e)
    · exact ih.bind fun _ => conceals_pure _

theorem createRequest_conceals (policy : GrantPolicy) (user : User) (input : Submission) :
    (createRequest policy user input).Conceals := by
  refine (conceals_store _).bind fun found => (conceals_orNotFound _ found).bind fun p => ?_
  dsimp only
  split
  · exact (conceals_count _).bind fun _ => conceals_throw _
  · refine conceals_now.bind fun now => (conceals_store _).bind fun claimed => ?_
    cases claimed with
    | none => exact (conceals_count _).bind fun _ => conceals_throw _
    | some p =>
      refine conceals_freshId.bind fun id => (grantGroups_conceals _ _).bind fun groups => ?_
      refine (conceals_store _).bind fun _ => (conceals_count _).bind fun _ => ?_
      exact (conceals_count _).bind fun _ => (conceals_emit _).bind fun _ => conceals_pure _

theorem visibleRequest_conceals (user : User) (id : String) :
    (visibleRequest user id).Conceals := by
  refine (conceals_store _).bind fun found => (conceals_orNotFound _ found).bind fun r => ?_
  split
  · exact conceals_pure _
  · refine conceals_isAdmin user fun admin => ?_
    split
    · exact conceals_pure _
    · refine conceals_isReviewer user r fun reviewer => ?_
      split
      · exact conceals_pure _
      · exact conceals_throw _

theorem emitRevoked_conceals (requestId actorId : String) (grants : List Grant) :
    (emitRevoked requestId actorId grants).Conceals := by
  induction grants with
  | nil => exact conceals_pure ()
  | cons grant rest ih => exact (conceals_emit _).bind fun _ => ih

theorem revokeRequest_conceals (actor : User) (id : String) : (revokeRequest actor id).Conceals := by
  refine (visibleRequest_conceals actor id).bind fun r => conceals_now.bind fun now => ?_
  refine alike_call (c := .revoke (r.expireElapsed now).1 actor.id actor.email) ?_
  rintro (e | revoked) text
  · have hrefused := ServiceError.shown_ofWorkflow_retell text e
    show Alike _ (if _ then _ else _) (if _ then _ else _)
    split
    · exact Alike.bind (conceals_store _) fun _ => alike_throw hrefused
    · exact alike_throw hrefused
  · exact (conceals_store _).bind fun _ => (conceals_count _).bind fun _ =>
      (emitRevoked_conceals _ _ _).bind fun _ => conceals_pure _

theorem getRequestFor_conceals (user : User) (id : String) : (getRequestFor user id).Conceals :=
  (visibleRequest_conceals user id).bind fun _ => conceals_now.bind fun _ => conceals_pure _

end Requests

/-! ## Handlers -/

namespace Handler

variable {r : HttpRequest}

/-- A handler whose texts of failures are not shown. -/
def Conceals (h : Handler α) : Prop :=
  Alike Refusal.answer h h

theorem conceals_pure (a : α) : Conceals (pure a : Handler α) := alike_pure a

theorem conceals_throw (refusal : Refusal) : Conceals (throw refusal : Handler α) := alike_throw rfl

theorem Conceals.bind {h : Handler α} {f : α → Handler β} (hh : h.Conceals)
    (hf : ∀ a, (f a).Conceals) : Conceals (h >>= f : Handler β) :=
  Alike.bind hh hf

theorem conceals_run {operation : Service α} (h : operation.Conceals) : (run operation).Conceals := by
  refine Interaction.Pairs.bind (Interaction.Pairs.mono h fun a b hab => .done ?_)
  cases a with
  | ok a =>
    cases b with
    | ok b => exact hab
    | error e' => cases hab
  | error e =>
    cases b with
    | ok b => cases hab
    | error e' => exact hab

/-- An answer that is made of the result of an operation. -/
theorem conceals_answer {operation : Service α} (h : operation.Conceals) {f : α → β} :
    Conceals (run operation >>= fun a => pure (f a)) :=
  (conceals_run h).bind fun _ => conceals_pure _

theorem conceals_caller : (caller r).Conceals := by
  rw [caller]
  split
  · exact conceals_pure _
  · exact conceals_throw _

theorem conceals_parameter (name raw : String) : (parameter name raw).Conceals := by
  rw [parameter]
  split
  · exact conceals_pure _
  · exact conceals_throw _

theorem conceals_query (read : Except Query.Fault α) : (query read).Conceals := by
  unfold query
  split
  · exact conceals_pure _
  · exact conceals_throw _

theorem conceals_body (form : Form α) : (body r form).Conceals := by
  rw [body]
  split
  · exact conceals_throw _
  · split
    · exact conceals_throw _
    · split
      · exact conceals_pure _
      · exact conceals_throw _

theorem conceals_requireAdmin (user : User) : (requireAdmin user).Conceals := by
  refine alike_call (c := .isAdmin user) ?_
  rintro (detail | admin) text
  · exact alike_throw rfl
  · cases admin with
    | true => exact conceals_pure ()
    | false => exact conceals_throw _

end Handler

namespace Server

open Handler

variable {rules : ServiceRules} {r : HttpRequest}

theorem ready_conceals : ready.Conceals := by
  refine alike_call (c := .resource (.store .healthCheck)) ?_
  rintro (e | _) text
  · exact conceals_pure _
  · exact conceals_pure _

theorem listTargetGroups_conceals : (listTargetGroups r).Conceals :=
  conceals_caller.bind fun _ => (conceals_query _).bind fun _ => conceals_answer (conceals_store _)

theorem createTargetGroup_conceals : (createTargetGroup r).Conceals :=
  conceals_caller.bind fun user => (conceals_body _).bind fun form =>
    (conceals_requireAdmin user).bind fun _ =>
      conceals_answer (Bindings.createTargetGroup_conceals form.id form.targetSchema)

theorem getTargetGroup_conceals (id : String) : (getTargetGroup r id).Conceals :=
  conceals_caller.bind fun user => (conceals_parameter _ id).bind fun id =>
    (conceals_requireAdmin user).bind fun _ => conceals_answer (Bindings.getTargetGroup_conceals id)

theorem linkDeployment_conceals (id : String) : (linkDeployment rules r id).Conceals :=
  conceals_caller.bind fun user => (conceals_parameter _ id).bind fun id =>
    (conceals_body _).bind fun form => (conceals_requireAdmin user).bind fun _ =>
      conceals_answer (Bindings.linkDeployment_conceals _ id form.deploymentId form.priority)

theorem unlinkDeployment_conceals (id deploymentId : String) :
    (unlinkDeployment r id deploymentId).Conceals :=
  conceals_caller.bind fun user => (conceals_parameter _ id).bind fun id =>
    (conceals_parameter _ deploymentId).bind fun deploymentId =>
      (conceals_requireAdmin user).bind fun _ =>
        conceals_answer (Bindings.unlinkDeployment_conceals id deploymentId)

theorem registerDeployment_conceals : (registerDeployment rules r).Conceals := by
  refine conceals_caller.bind fun user => (conceals_body _).bind fun form => ?_
  refine (conceals_requireAdmin user).bind fun _ => ?_
  cases Provider.parse form.provider with
  | error e => exact conceals_run (conceals_throw _)
  | ok provider =>
    exact conceals_answer (Bindings.registerWithin_conceals _ (form.deployment provider) _)

theorem listTargets_conceals : (listTargets r).Conceals := by
  refine conceals_caller.bind fun user => (conceals_query _).bind fun token => ?_
  have hlist : (Catalogue.listTargets user token).Conceals :=
    (conceals_store _).bind fun _ => Service.conceals_pure _
  exact conceals_answer hlist

theorem putTarget_conceals (id : String) : (putTarget r id).Conceals := by
  refine conceals_caller.bind fun user => (conceals_parameter _ id).bind fun id => ?_
  refine (conceals_body _).bind fun form => (conceals_requireAdmin user).bind fun _ => ?_
  have hput : (Catalogue.putTarget (form.target id)).Conceals :=
    (conceals_store _).bind fun _ => Service.conceals_pure _
  exact conceals_answer hput

theorem listArgOptions_conceals (providerId argId : String) :
    (listArgOptions r providerId argId).Conceals :=
  conceals_caller.bind fun user => (conceals_parameter _ providerId).bind fun providerId =>
    (conceals_parameter _ argId).bind fun argId => (conceals_query _).bind fun refresh =>
      conceals_answer (ArgOptionCache.listFor_conceals user providerId argId refresh)

theorem createPreflight_conceals : (createPreflight r).Conceals :=
  conceals_caller.bind fun user => (conceals_body _).bind fun form =>
    conceals_answer (Preflights.createPreflight_conceals user form.targets)

theorem getPreflight_conceals (id : String) : (getPreflight r id).Conceals := by
  refine conceals_caller.bind fun user => (conceals_parameter _ id).bind fun id => ?_
  have hget : (Preflights.getPreflight user id).Conceals :=
    (conceals_store _).bind fun found => conceals_orNotFound _ found
  exact conceals_answer hget

theorem createRequest_conceals : (createRequest rules r).Conceals :=
  conceals_caller.bind fun user => (conceals_body _).bind fun submission =>
    conceals_answer (Requests.createRequest_conceals rules.policy user submission)

theorem getRequest_conceals (id : String) : (getRequest r id).Conceals :=
  conceals_caller.bind fun user => (conceals_parameter _ id).bind fun id =>
    conceals_answer (Requests.getRequestFor_conceals user id)

theorem revokeRequest_conceals (id : String) : (revokeRequest r id).Conceals :=
  conceals_caller.bind fun user => (conceals_parameter _ id).bind fun id =>
    conceals_answer (Requests.revokeRequest_conceals user id)

theorem listOwnRequests_conceals : (listOwnRequests r).Conceals := by
  refine conceals_caller.bind fun user => (conceals_query _).bind fun token => ?_
  have hlist : (Requests.listRequestsFor user token).Conceals :=
    (conceals_store _).bind fun _ => conceals_now.bind fun _ => Service.conceals_pure _
  exact conceals_answer hlist

theorem listAllRequests_conceals : (listAllRequests r).Conceals := by
  refine conceals_caller.bind fun user => (conceals_query _).bind fun token => ?_
  have hlist : (Requests.listRequests token).Conceals :=
    (conceals_store _).bind fun _ => conceals_now.bind fun _ => Service.conceals_pure _
  exact (conceals_requireAdmin user).bind fun _ => conceals_answer hlist

/-- Every handler is made of steps that conceal. -/
theorem handler_conceals {route : Route} {method : Method} {h : Handler Answer}
    (hh : handler? rules r route method = some h) : h.Conceals := by
  unfold handler? at hh
  split at hh
  case h_21 => cases hh
  all_goals cases hh
  · exact Handler.conceals_pure _
  · exact ready_conceals
  · exact Handler.conceals_pure _
  · exact listTargetGroups_conceals
  · exact listTargets_conceals
  · exact listArgOptions_conceals _ _
  · exact createPreflight_conceals
  · exact getPreflight_conceals _
  · exact createRequest_conceals
  · exact listOwnRequests_conceals
  · exact getRequest_conceals _
  · exact revokeRequest_conceals _
  · exact createTargetGroup_conceals
  · exact listTargetGroups_conceals
  · exact getTargetGroup_conceals _
  · exact linkDeployment_conceals _
  · exact unlinkDeployment_conceals _ _
  · exact registerDeployment_conceals
  · exact putTarget_conceals _
  · exact listAllRequests_conceals

theorem answer_pairs (rules : ServiceRules) (r : HttpRequest) :
    Interaction.Pairs (· = ·) (answer rules r) (answer rules r) := by
  rw [answer]
  split
  · exact .done rfl
  · split
    · exact .done rfl
    · rename_i handler hhandler
      refine Interaction.Pairs.bind (Interaction.Pairs.mono (handler_conceals hhandler) ?_)
      intro a b hab
      have hsame : ∀ x : Except Refusal Answer, answerOf x = match x.mapError Refusal.answer with
          | .ok found => found
          | .error found => found := fun x => by cases x <;> rfl
      refine .done ?_
      rw [hsame, hsame, hab]

/-- Whatever anyone else answers, replacing the texts of their failures changes nothing in the
response, and no call on the way to it. -/
theorem serve_conceals (rules : ServiceRules) (r : HttpRequest) (x : Elsewhere)
    (texts : List Call → Call → String) :
    (serve rules r).answeredBy (x.retold texts) [] = (serve rules r).answeredBy x [] := by
  refine Interaction.answeredBy_retold ?_ x texts []
  refine Interaction.Pairs.bind (Interaction.Pairs.mono (answer_pairs rules r) ?_)
  rintro found _ rfl
  exact .step fun _ _ => .done rfl

end Server

end AccessGrants
