import AccessGrants.Policy
import AccessGrants.Service.Proc

/-!
# AccessGrants.Service.Requests

Submission, lookup and revocation of access requests.

* `createRequest` — uses up a preflight and asks the workflow for grants, group by group. When a
                    group fails, earlier groups keep their grants, nothing is stored and the
                    preflight stays used up.
* `revokeRequest` — revokes every active grant of a request.
* `getRequestFor`, `listRequestsFor`, `listRequests` — requests with the status that their grants
                    have now.
-/

namespace AccessGrants

/-- What a user asks for one access group of a preflight. -/
structure GroupOption where
  id : String
  durationSeconds : Option Int
  deriving DecidableEq, Repr, Inhabited

structure Submission where
  preflightId : String
  reason : Option String
  groupOptions : List GroupOption
  deriving DecidableEq, Repr, Inhabited

namespace Requests

/-- Why an option cannot be accepted, given the options before it. -/
def optionFault? (policy : GrantPolicy) (preflight : Preflight) (before : List GroupOption)
    (option : GroupOption) : Option String :=
  if (preflight.accessGroup? option.id).isNone then
    some ("access group " ++ option.id ++ " is not part of preflight " ++ preflight.id)
  else if before.any fun o => o.id = option.id then
    some ("access group " ++ option.id ++ " has more than one set of options")
  else if option.durationSeconds.any fun d => !policy.admits d then
    some ("duration for access group " ++ option.id ++ " must be between 1 and " ++
      toString policy.maxDuration ++ " seconds")
  else none

/-- The first fault of a list of options. -/
def optionsFault? (policy : GrantPolicy) (preflight : Preflight) :
    List GroupOption → List GroupOption → Option String
  | _, [] => none
  | before, option :: rest =>
    match optionFault? policy preflight before option with
    | some reason => some reason
    | none => optionsFault? policy preflight (before ++ [option]) rest

/-- The duration for a group: that of the option that names it, or the default. -/
def durationOf (policy : GrantPolicy) (options : List GroupOption) (groupId : String) : Int :=
  ((options.find? fun o => o.id = groupId).bind (·.durationSeconds)).getD policy.defaultDuration

/-- The access group of a request for one group of its preflight, still without grants. -/
def accessGroup (policy : GrantPolicy) (requestId : String) (options : List GroupOption)
    (group : PreflightGroup) : AccessGroup where
  id := group.id
  requestId := requestId
  accessRule := group.accessRule
  targets := group.targets
  durationSeconds := durationOf policy options group.id
  grants := []

/-- Asks the workflow for the grants of every group, in order. -/
def grantGroups (subject : Requester) : List AccessGroup → Service (List AccessGroup)
  | [] => return []
  | group :: rest => do
    match ← Service.call (.grant group subject) with
    | .ok grants => return { group with grants := grants } :: (← grantGroups subject rest)
    | .error e =>
      Service.count (.request .grantFailed)
      throw (.ofWorkflow e)

/-- Everyone who may review one of the targets. -/
def reviewersOf (groups : List AccessGroup) : Names :=
  (groups.flatMap (·.targets)).foldl (fun acc t => acc.union t.reviewers) ∅

def createRequest (policy : GrantPolicy) (user : User) (input : Submission) :
    Service AccessRequest := do
  let missing := "preflight " ++ input.preflightId
  let preflight ← Service.orNotFound missing
    (← Service.store (.getPreflight input.preflightId user.id))
  match optionsFault? policy preflight [] input.groupOptions with
  | some reason =>
    Service.count (.request .invalid)
    throw (.invalidRequest reason)
  | none =>
    let now ← Service.now
    match ← Service.store (.claimPreflight input.preflightId user.id now) with
    | none =>
      Service.count (.request .preflightConsumed)
      throw (.notFound missing)
    | some preflight =>
      let id ← Service.freshId
      let groups ← grantGroups user.requester
        (preflight.accessGroups.map (accessGroup policy id input.groupOptions))
      let request : AccessRequest :=
        { id := id, preflightId := preflight.id, requestedBy := user.requester,
          reason := input.reason, groups := groups, reviewers := reviewersOf groups,
          createdAt := now, updatedAt := now }
      Service.store (.putRequest request)
      let grantIds := request.grants.map (·.id)
      Service.count (.request .created)
      Service.count (.grantsIssued grantIds.length)
      Service.emit (.requestCreated request.id user.id grantIds)
      return request

/-- A request that a user may see: the requester, an administrator or a reviewer. -/
def visibleRequest (user : User) (id : String) : Service AccessRequest := do
  let missing := "request " ++ id
  let request ← Service.orNotFound missing (← Service.store (.getRequest id))
  if request.requestedBy.id = user.id then return request
  else if ← Service.verdict (← Service.call (.isAdmin user)) then return request
  else if ← Service.verdict (← Service.call (.isReviewer user request)) then return request
  else throw (.notFound missing)

/-- Reports every revoked grant. -/
def emitRevoked (requestId actorId : String) : List Grant → Service Unit
  | [] => return ()
  | grant :: rest => do
    Service.emit (.grantRevoked requestId grant.id actorId)
    emitRevoked requestId actorId rest

/-- Grants whose end has come expire first; when the workflow refuses, only that is written. -/
def revokeRequest (actor : User) (id : String) : Service AccessRequest := do
  let request ← visibleRequest actor id
  let now ← Service.now
  let (request, expired) := request.expireElapsed now
  match ← Service.call (.revoke request actor.id actor.email) with
  | .error e =>
    if expired then Service.store (.putRequest request)
    throw (.ofWorkflow e)
  | .ok revoked =>
    let (request, _) := request.applyUpdates revoked now
    Service.store (.putRequest request)
    Service.count (.grantsRevoked revoked.length)
    emitRevoked request.id actor.id revoked
    return request

/-- The request with the status that its grants have at a time. -/
def current (now : Instant) (request : AccessRequest) : AccessRequest :=
  (request.expireElapsed now).1

def getRequestFor (user : User) (id : String) : Service AccessRequest := do
  let request ← visibleRequest user id
  return current (← Service.now) request

def listRequestsFor (user : User) (page : Option String) : Service (Page AccessRequest) := do
  let found ← Service.store (.listRequestsFor user.id page)
  return found.map (current (← Service.now))

/-- Every request; callers check for administrator rights. -/
def listRequests (page : Option String) : Service (Page AccessRequest) := do
  let found ← Service.store (.listRequests page)
  return found.map (current (← Service.now))

end Requests

end AccessGrants
