import AccessGrants.Application
import AccessGrants.Proofs.Alone.Run
import AccessGrants.Proofs.Concurrency.Handlers
import AccessGrants.Proofs.Names
import AccessGrants.Proofs.Text.Split

/-!
# AccessGrants.Proofs.Http.AdminSurface

What a caller outside the group of the administrators gets below the paths of the administrators: a
refusal, and nothing else happens.

* `HttpRequest.NamesGroup` — a group that the caller names.
* `HttpRequest.UnderAdmin` — a request below these paths.
* `Handler.Refuses`        — a handler that refuses without a call. There is one lemma for each step
                             that handlers are made of.
* `handler_refuses`        — every handler below these paths does.
* `admin_closed`           — so the response is a refusal, whatever is stored.
-/

namespace AccessGrants

namespace HttpRequest

/-- A segment of the first header with groups, trimmed, is the name of this group. -/
def NamesGroup (r : HttpRequest) (group : String) : Prop :=
  ∃ value, r.header? userGroupsHeader = some value ∧
    ∃ segment ∈ Text.split ',' value.toList, String.ofList (Text.trim segment) = group

/-- The path is `/v1/admin` or below it. -/
def UnderAdmin (r : HttpRequest) : Prop :=
  ∃ rest, r.path.toList = "/v1/admin".toList ++ rest ∧ (rest = [] ∨ ∃ more, rest = '/' :: more)

def ReadsTargetGroups (r : HttpRequest) : Prop :=
  r.path = "/v1/admin/target-groups" ∧ (r.method = .get ∨ r.method = .head)

theorem names_of_inGroup {r : HttpRequest} {user : User} (h : r.user = .ok user) {group : String}
    (hg : user.inGroup group = true) : r.NamesGroup group := by
  have hmem : group ∈ ((r.trimmed? userGroupsHeader).map groupNames).getD [] := by
    unfold HttpRequest.user at h
    split at h
    · cases h
    · split at h
      · cases h
      · cases h
        have hin : group ∈ Names.ofNames
            (((r.trimmed? userGroupsHeader).map groupNames).getD []) := hg
        exact (Names.mem_foldl_insert.mp hin).resolve_right
          Std.ExtTreeSet.not_mem_empty
  cases ht : r.trimmed? userGroupsHeader with
  | none =>
    rw [ht] at hmem
    cases hmem
  | some cs =>
    rw [ht] at hmem
    obtain ⟨segment, hsegment, rfl⟩ := List.mem_map.mp hmem
    have hsegment : segment ∈ (Text.split ',' cs).map Text.trim :=
      (List.mem_filter.mp hsegment).1
    obtain ⟨hcs, -⟩ := Option.filter_eq_some_iff.mp ht
    obtain ⟨value, hvalue, rfl⟩ := Option.map_eq_some_iff.mp hcs
    rw [Text.map_trim_split_trim (by decide)] at hsegment
    obtain ⟨raw, hraw, rfl⟩ := List.mem_map.mp hsegment
    exact ⟨value, (Option.filter_eq_some_iff.mp hvalue).1, raw, hraw, rfl⟩

end HttpRequest

namespace Proc

theorem locally_bind (authorizer : GroupAuthorizer) (p : Proc α) (f : α → Proc β) :
    locally authorizer (p >>= f) = locally authorizer p >>= fun a => locally authorizer (f a) := by
  induction p with
  | done a => rfl
  | step c next ih =>
    show (c.locally authorizer >>= fun r => locally authorizer (next r >>= f)) =
      (c.locally authorizer >>= fun r => locally authorizer (next r)) >>= _
    rw [LawfulMonad.bind_assoc, funext ih]
  | overflow => rfl

end Proc

/-! ## Refusals -/

namespace HttpError

theorem status_ge (e : HttpError) : 400 ≤ e.status := by
  cases e <;> simp [status]

end HttpError

theorem Refusal.status_ge (refusal : Refusal) : 400 ≤ refusal.answer.status := by
  cases refusal with
  | error e => exact e.status_ge
  | badTarget text => exact Nat.le_refl 400

namespace Handler

variable {authorizer : GroupAuthorizer} {r : HttpRequest} {f : β → Handler α}

/-- The handler ends in a refusal and makes no call on the way. -/
def Refuses (authorizer : GroupAuthorizer) (h : Handler α) : Prop :=
  ∃ refusal, Proc.locally authorizer (ExceptT.run h) = .done (.error refusal)

theorem refuses_pure_bind {b : β} (h : Refuses authorizer (f b)) :
    Refuses authorizer (pure b >>= f) := h

theorem refuses_throw_bind (refusal : Refusal) :
    Refuses authorizer ((throw refusal : Handler β) >>= f) :=
  ⟨refusal, rfl⟩

theorem refuses_caller {f : User → Handler α}
    (h : ∀ user, r.user = .ok user → Refuses authorizer (f user)) :
    Refuses authorizer (caller r >>= f) := by
  unfold caller
  split
  · rename_i user huser
    exact refuses_pure_bind (h user huser)
  · exact refuses_throw_bind _

theorem refuses_parameter {name raw : String} {f : String → Handler α}
    (h : ∀ value, Refuses authorizer (f value)) :
    Refuses authorizer (parameter name raw >>= f) := by
  unfold parameter
  split
  · exact refuses_pure_bind (h _)
  · exact refuses_throw_bind _

theorem refuses_query {read : Except Query.Fault β} (h : ∀ b, Refuses authorizer (f b)) :
    Refuses authorizer (query read >>= f) := by
  unfold query
  split
  · exact refuses_pure_bind (h _)
  · exact refuses_throw_bind _

theorem refuses_body {form : Form β} (h : ∀ b, Refuses authorizer (f b)) :
    Refuses authorizer (body r form >>= f) := by
  unfold body
  split
  · exact refuses_throw_bind _
  · split
    · exact refuses_throw_bind _
    · split
      · exact refuses_pure_bind (h _)
      · exact refuses_throw_bind _

theorem refuses_requireAdmin {user : User} {f : Unit → Handler α}
    (h : authorizer.isAdmin user = false) : Refuses authorizer (requireAdmin user >>= f) := by
  refine ⟨.error (.forbidden "Administrator access required"), ?_⟩
  have verdict : Call.locally authorizer (.isAdmin user) = .done (.ok false) := by
    rw [← h]
    rfl
  show Call.locally authorizer (.isAdmin user) >>= _ = _
  rw [verdict]
  rfl

end Handler

/-! ## The routes of the administrators -/

namespace Route

/-- The segments of a path of this route. -/
def segments : Route → List String
  | health => ["health"]
  | ready => ["ready"]
  | metrics => ["metrics"]
  | targetGroups => ["v1", "target-groups"]
  | targets => ["v1", "targets"]
  | argOptions providerId argId => ["v1", "providers", providerId, "args", argId, "options"]
  | preflights => ["v1", "preflights"]
  | preflight id => ["v1", "preflights", id]
  | requests => ["v1", "requests"]
  | request id => ["v1", "requests", id]
  | revocation id => ["v1", "requests", id, "revoke"]
  | adminTargetGroups => ["v1", "admin", "target-groups"]
  | adminTargetGroup id => ["v1", "admin", "target-groups", id]
  | adminLinks id => ["v1", "admin", "target-groups", id, "links"]
  | adminLink id deploymentId => ["v1", "admin", "target-groups", id, "links", deploymentId]
  | adminDeployments => ["v1", "admin", "deployments"]
  | adminTarget id => ["v1", "admin", "targets", id]
  | adminRequests => ["v1", "admin", "requests"]

theorem segments_of_some {names : List String} {route : Route}
    (h : ofSegments? names = some route) : names = route.segments := by
  unfold ofSegments? at h
  split at h
  all_goals
    first
    | cases h
    | split at h
      · cases h
      · cases h
        rfl
  all_goals rfl

/-- The route of a path below `/v1/admin` is looked up by what stands below it. -/
theorem ofPath?_underAdmin {r : HttpRequest} (h : r.UnderAdmin) :
    ofPath? r.path = none ∨
      ∃ more, r.path.toList = "/v1/admin/".toList ++ more ∧
        ofPath? r.path = ofSegments? ("v1" :: "admin" :: (Text.split '/' more).map String.ofList) := by
  have hroot : "/v1/admin".toList = '/' :: ("v1".toList ++ '/' :: "admin".toList) := by decide
  have hv1 : ∀ c ∈ "v1".toList, c ≠ '/' := by simp
  have hadmin : ∀ c ∈ "admin".toList, c ≠ '/' := by simp
  obtain ⟨rest, hpath, hrest⟩ := h
  rw [hroot] at hpath
  rcases hrest with rfl | ⟨more, rfl⟩
  · left
    rw [List.append_nil] at hpath
    simp only [ofPath?, hpath]
    rw [Text.split_append hv1, Text.split_of_not_mem hadmin]
    decide
  · right
    have hmore : '/' :: ("v1".toList ++ '/' :: "admin".toList) ++ '/' :: more =
        '/' :: ("v1".toList ++ '/' :: ("admin".toList ++ '/' :: more)) := by simp
    rw [hmore] at hpath
    refine ⟨more, ?_, ?_⟩
    · have hbelow : "/v1/admin/".toList = '/' :: ("v1".toList ++ '/' :: ("admin".toList ++ ['/'])) := by
        decide
      rw [hpath, hbelow]
      simp
    · simp only [ofPath?, hpath]
      rw [Text.split_append hv1, Text.split_append hadmin]
      rfl

/-- A known path below `/v1/admin` is of a route there, and only one path is that of the list of target
groups. -/
theorem segments_of_underAdmin {r : HttpRequest} {route : Route} (h : r.UnderAdmin)
    (hroute : ofPath? r.path = some route) :
    (∃ rest, route.segments = "v1" :: "admin" :: rest) ∧
      (route = adminTargetGroups → r.path = "/v1/admin/target-groups") := by
  rcases ofPath?_underAdmin h with hnone | ⟨more, hpath, hsome⟩
  · rw [hnone] at hroute
    cases hroute
  · rw [hsome] at hroute
    have hsegments := segments_of_some hroute
    refine ⟨⟨_, hsegments.symm⟩, ?_⟩
    rintro rfl
    have hlast : (Text.split '/' more).map String.ofList = ["target-groups"] :=
      (List.cons.inj (List.cons.inj hsegments).2).2
    obtain ⟨part, hpart, hname⟩ := List.map_eq_singleton_iff.mp hlast
    have hmore : more = "target-groups".toList := by
      rw [Text.eq_of_split_single hpart, ← hname, String.toList_ofList]
    rw [← String.toList_inj, hpath, hmore]
    decide

end Route

/-! ## The handlers -/

namespace Server

variable {rules : ServiceRules} {authorizer : GroupAuthorizer} {r : HttpRequest}

section Handlers

open Handler

variable (h : ∀ user, r.user = .ok user → authorizer.isAdmin user = false)
include h

theorem createTargetGroup_refuses : Refuses authorizer (createTargetGroup r) :=
  refuses_caller fun user hu => refuses_body fun _ => refuses_requireAdmin (h user hu)

theorem getTargetGroup_refuses (id : String) : Refuses authorizer (getTargetGroup r id) :=
  refuses_caller fun user hu => refuses_parameter fun _ => refuses_requireAdmin (h user hu)

theorem linkDeployment_refuses (id : String) : Refuses authorizer (linkDeployment rules r id) :=
  refuses_caller fun user hu => refuses_parameter fun _ => refuses_body fun _ =>
    refuses_requireAdmin (h user hu)

theorem unlinkDeployment_refuses (id deploymentId : String) :
    Refuses authorizer (unlinkDeployment r id deploymentId) :=
  refuses_caller fun user hu => refuses_parameter fun _ => refuses_parameter fun _ =>
    refuses_requireAdmin (h user hu)

theorem registerDeployment_refuses : Refuses authorizer (registerDeployment rules r) :=
  refuses_caller fun user hu => refuses_body fun _ => refuses_requireAdmin (h user hu)

theorem putTarget_refuses (id : String) : Refuses authorizer (putTarget r id) :=
  refuses_caller fun user hu => refuses_parameter fun _ => refuses_body fun _ =>
    refuses_requireAdmin (h user hu)

theorem listAllRequests_refuses : Refuses authorizer (listAllRequests r) :=
  refuses_caller fun user hu => refuses_query fun _ => refuses_requireAdmin (h user hu)

/-- Apart from the list of target groups, every handler below `/v1/admin` refuses. -/
theorem handler_refuses {route : Route} {rest : List String} {method : Method}
    {handler : Handler Answer} (hroute : route.segments = "v1" :: "admin" :: rest)
    (hlist : ¬ (route = .adminTargetGroups ∧ method = .get))
    (hh : handler? rules r route method = some handler) : Refuses authorizer handler := by
  cases route with
  | adminTargetGroups =>
    cases method with
    | post =>
      cases hh
      exact createTargetGroup_refuses h
    | get => exact absurd ⟨rfl, rfl⟩ hlist
    | _ => cases hh
  | adminTargetGroup id =>
    cases method with
    | get =>
      cases hh
      exact getTargetGroup_refuses h id
    | _ => cases hh
  | adminLinks id =>
    cases method with
    | post =>
      cases hh
      exact linkDeployment_refuses h id
    | _ => cases hh
  | adminLink id deploymentId =>
    cases method with
    | delete =>
      cases hh
      exact unlinkDeployment_refuses h id deploymentId
    | _ => cases hh
  | adminDeployments =>
    cases method with
    | post =>
      cases hh
      exact registerDeployment_refuses h
    | _ => cases hh
  | adminTarget id =>
    cases method with
    | put =>
      cases hh
      exact putTarget_refuses h id
    | _ => cases hh
  | adminRequests =>
    cases method with
    | get =>
      cases hh
      exact listAllRequests_refuses h
    | _ => cases hh
  | _ => simp [Route.segments] at hroute

end Handlers

theorem handling_eq_get {method : Method} (h : handling method = .get) :
    method = .get ∨ method = .head := by
  cases method with
  | get => exact .inl rfl
  | head => exact .inr rfl
  | _ => cases h

/-- Below `/v1/admin` the answer to a caller who names no group of administrators is a refusal. -/
theorem answer_refused (rules : ServiceRules) (hpath : r.UnderAdmin)
    (hread : ¬ r.ReadsTargetGroups) (hgroup : ¬ r.NamesGroup authorizer.adminGroup) :
    ∃ found : Answer, 400 ≤ found.status ∧
      Proc.locally authorizer (answer rules r) = .done found := by
  have hadmin : ∀ user, r.user = .ok user → authorizer.isAdmin user = false := by
    intro user huser
    by_contra hin
    exact hgroup (HttpRequest.names_of_inGroup huser (Bool.of_not_eq_false hin))
  unfold answer
  split
  · exact ⟨.plain 404 "", by decide, rfl⟩
  · rename_i route hroute
    obtain ⟨⟨rest, hsegments⟩, hlist⟩ := Route.segments_of_underAdmin hpath hroute
    split
    · exact ⟨.plain 405 "", by decide, rfl⟩
    · rename_i handler hh
      have hnot : ¬ (route = .adminTargetGroups ∧ handling r.method = .get) := by
        rintro ⟨hr, hm⟩
        exact hread ⟨hlist hr, handling_eq_get hm⟩
      obtain ⟨refusal, hrefusal⟩ := handler_refuses hadmin hsegments hnot hh
      refine ⟨refusal.answer, refusal.status_ge, ?_⟩
      rw [Proc.locally_bind, hrefusal]
      rfl

theorem serve_refused (rules : ServiceRules) (hpath : r.UnderAdmin)
    (hread : ¬ r.ReadsTargetGroups) (hgroup : ¬ r.NamesGroup authorizer.adminGroup) :
    ∃ (response : HttpResponse) (metric : Metric), 400 ≤ response.status ∧
      Proc.locally authorizer (serve rules r) =
        .step (.count metric) fun _ => .done response := by
  obtain ⟨found, hstatus, hfound⟩ := answer_refused rules hpath hread hgroup
  refine ⟨⟨found.status, if r.method = .head then .text "" else found.content, r.requestId?⟩,
    .httpRequest r.method.name (routeLabel r.path) found.status, hstatus, ?_⟩
  rw [serve, Proc.locally_bind, hfound]
  rfl

end Server

/-- The service over a store in memory, alone: the result, the store and the calls at the end of a
request. -/
def Application.answered (app : Application) (r : HttpRequest) (ms : List Moment)
    (s : MemoryStore) : Option (Except ServiceError HttpResponse × MemoryStore × Past) :=
  (Service.ofResources (Proc.locally app.authorizer (Server.serve app.rules r))).run.alone ms s []

/-- Whoever names no group of administrators gets one and the same refusal for a request below
`/v1/admin`, whatever is stored, whatever time it is and whatever the surroundings would answer,
apart from the list of target groups. The store is left as it is; the request is counted, and no
other call is made, neither of the store nor of the registry or the source of options. The service
as it runs sends nothing to its database and to other services either. -/
theorem admin_closed (app : Application) (r : HttpRequest) (hpath : r.UnderAdmin)
    (hread : ¬ r.ReadsTargetGroups) (hgroup : ¬ r.NamesGroup app.authorizer.adminGroup) :
    ∃ (response : HttpResponse) (metric : Metric),
      ¬ (200 ≤ response.status ∧ response.status < 300) ∧
      (∀ (m : Moment) (ms : List Moment) (s : MemoryStore),
        app.answered r (m :: ms) s =
          some (.ok response, s, [⟨.resource (.count metric), some ()⟩])) ∧
      app.serve r = (do
        Interaction.call (Wire.count metric)
        return response) := by
  obtain ⟨response, metric, hstatus, hserve⟩ :=
    Server.serve_refused app.rules hpath hread hgroup
  refine ⟨response, metric, by omega, fun m ms s => ?_, ?_⟩
  · rw [Application.answered, hserve]
    show Interaction.alone ms s [⟨.resource (.count metric), some ()⟩]
      (.done (Except.ok response)) = _
    rw [Interaction.alone]
  · rw [Application.serve, hserve]
    rfl

namespace Stranger

/-- The groups of the administrators are theirs alone. -/
def app : Application where
  store := MongoStore.ofPageSize "access" 50
  registry := ⟨"http://registry"⟩
  source := ⟨"http://options"⟩
  authorizer := ⟨"admins"⟩
  rules := ⟨.enforced, .standard⟩

/-- A target group is asked for by someone of two other groups. -/
def creation : HttpRequest where
  method := .post
  path := "/v1/admin/target-groups"
  query := ""
  headers := [("x-user-id", "eve"), ("x-user-email", "eve@acme.com"),
    ("x-user-groups", " eng , admins-emea"), ("content-type", "application/json")]
  body := "\x7b\"id\": \"g\", \"target_schema\": \"acme/vault@1\"\x7d"

theorem creation_refused :
    creation.UnderAdmin ∧ ¬ creation.ReadsTargetGroups ∧
    ¬ creation.NamesGroup app.authorizer.adminGroup ∧
    ∃ response : HttpResponse, ¬ (200 ≤ response.status ∧ response.status < 300) ∧
      ∀ m s, ∃ past, app.answered creation [m] s = some (.ok response, s, past) := by
  have hpath : creation.UnderAdmin :=
    ⟨"/target-groups".toList, by decide, .inr ⟨"target-groups".toList, by decide⟩⟩
  have hread : ¬ creation.ReadsTargetGroups := by
    rintro ⟨-, h | h⟩
    · cases h
    · cases h
  have hgroup : ¬ creation.NamesGroup app.authorizer.adminGroup := by
    rintro ⟨value, hvalue, segment, hsegment, hname⟩
    have hheader : creation.header? HttpRequest.userGroupsHeader = some " eng , admins-emea" := by
      decide
    rw [hheader] at hvalue
    cases hvalue
    have hother : ∀ segment ∈ Text.split ',' " eng , admins-emea".toList,
        String.ofList (Text.trim segment) ≠ "admins" := by decide
    exact hother segment hsegment hname
  obtain ⟨response, metric, hstatus, hruns, -⟩ := admin_closed app creation hpath hread hgroup
  exact ⟨hpath, hread, hgroup, response, hstatus, fun m s => ⟨_, hruns m [] s⟩⟩

end Stranger

end AccessGrants
