import AccessGrants.Store.Call
import AccessGrants.Store.Paging
import Std.Data.ExtTreeMap

/-!
# AccessGrants.Store.Memory

A store in memory. Every call is one step on the whole state, and a call that fails changes
nothing.

* `MemoryStore`         — the tables, and the index of links from target groups to deployments.
* `MemoryStore.perform` — the answer of a call and the state after it.
-/

namespace AccessGrants

/-- Provider and argument, compared in this order. -/
structure ArgKey where
  providerId : String
  argId : String
  deriving DecidableEq, Repr

namespace ArgKey

def order : ArgKey → ArgKey → Ordering :=
  compareLex (compareOn providerId) (compareOn argId)

instance : Std.TransCmp order :=
  inferInstanceAs (Std.TransCmp (compareLex (compareOn providerId) (compareOn argId)))

instance : Std.LawfulEqCmp order where
  eq_of_compare {a b} h := by
    obtain ⟨p, x⟩ := a
    obtain ⟨q, y⟩ := b
    simp only [order, compareLex, compareOn, Ordering.then_eq_eq] at h
    rw [Std.LawfulEqCmp.eq_of_compare h.1, Std.LawfulEqCmp.eq_of_compare h.2]

end ArgKey

structure MemoryStore where
  pageSize : Nat
  targetGroups : Std.ExtTreeMap String TargetGroup := ∅
  deployments : Std.ExtTreeMap String Deployment := ∅
  links : Std.ExtTreeMap String String := ∅
  preflights : Std.ExtTreeMap String Preflight := ∅
  requests : Std.ExtTreeMap String AccessRequest := ∅
  targets : Std.ExtTreeMap String Target := ∅
  argOptions : Std.ExtTreeMap ArgKey CachedArgOptions ArgKey.order := ∅
  deriving DecidableEq, Inhabited

/-- Requests are listed from the newest to the oldest, and by id where they are of one time. -/
def AccessRequest.newestFirst (a b : AccessRequest) : Bool :=
  decide (b.createdAt < a.createdAt) || (a.createdAt = b.createdAt && decide (a.id ≤ b.id))

def TargetGroup.byId (a b : TargetGroup) : Bool :=
  decide (a.id ≤ b.id)

def Target.byId (a b : Target) : Bool :=
  decide (a.id ≤ b.id)

namespace MemoryStore

/-- An empty store; pages hold at least one item. -/
def empty (pageSize : Nat) : MemoryStore :=
  { pageSize := max pageSize 1 }

/-- A page of items in the given order. -/
def pageOf (s : MemoryStore) (items : List α) (order : α → α → Bool) (page : Option String) :
    Except StoreError (Page α) := do
  let offset ← PageToken.decode page
  return paginate (items.mergeSort order) offset s.pageSize

def listTargetGroups (s : MemoryStore) (page : Option String) :
    Except StoreError (Page TargetGroup) :=
  s.pageOf s.targetGroups.values TargetGroup.byId page

def listTargets (s : MemoryStore) (page : Option String) : Except StoreError (Page Target) :=
  s.pageOf s.targets.values Target.byId page

def listRequests (s : MemoryStore) (page : Option String) :
    Except StoreError (Page AccessRequest) :=
  s.pageOf s.requests.values AccessRequest.newestFirst page

def listRequestsFor (s : MemoryStore) (userId : String) (page : Option String) :
    Except StoreError (Page AccessRequest) :=
  s.pageOf (s.requests.values.filter fun r => r.requestedBy.id = userId)
    AccessRequest.newestFirst page

def insertTargetGroup (s : MemoryStore) (group : TargetGroup) :
    Except StoreError Unit × MemoryStore :=
  if s.targetGroups.contains group.id then (.error .conditionFailed, s)
  else (.ok (), { s with targetGroups := s.targetGroups.insert group.id group })

/-- Whether a guard lets a deployment be written over the stored one. -/
def allows (guard : AssignmentGuard) (stored : Option Deployment) : Bool :=
  match guard, stored with
  | .any, _ => true
  | .unassigned, some d => !d.isAssigned
  | .unassigned, none => true
  | .assignedTo g, some d => d.assignedTo g
  | .assignedTo _, none => false

/-- The deployment to be stored: the new one with the assignment of the stored one. -/
def merged (deployment : Deployment) (stored : Option Deployment) : Deployment :=
  { deployment with assignment := stored.bind (·.assignment) }

def upsertDeployment (s : MemoryStore) (deployment : Deployment) (guard : AssignmentGuard) :
    Except StoreError Deployment × MemoryStore :=
  let stored := s.deployments[deployment.id]?
  if allows guard stored then
    let next := merged deployment stored
    (.ok next, { s with deployments := s.deployments.insert deployment.id next })
  else (.error .conditionFailed, s)

def findDeployment (s : MemoryStore) (targetGroupId : String) : Option Deployment :=
  s.links[targetGroupId]?.bind fun id => s.deployments[id]?

def assignDeployment (s : MemoryStore) (id : String) (provider : Provider)
    (assignment : Assignment) : Except StoreError Deployment × MemoryStore :=
  match s.deployments[id]? with
  | none => (.error .conditionFailed, s)
  | some d =>
    if d.isAssigned ∨ d.provider ≠ provider then (.error .conditionFailed, s)
    else if s.links.contains assignment.targetGroupId then (.error .conditionFailed, s)
    else
      let next := { d with assignment := some assignment }
      (.ok next,
        { s with
          deployments := s.deployments.insert id next
          links := s.links.insert assignment.targetGroupId id })

def clearAssignment (s : MemoryStore) (id targetGroupId : String) :
    Except StoreError Deployment × MemoryStore :=
  match s.deployments[id]? with
  | none => (.error .conditionFailed, s)
  | some d =>
    if ¬ d.assignedTo targetGroupId then (.error .conditionFailed, s)
    else
      let next := { d with assignment := none }
      (.ok next,
        { s with
          deployments := s.deployments.insert id next
          links :=
            if s.links[targetGroupId]? = some id then s.links.erase targetGroupId else s.links })

def getPreflight (s : MemoryStore) (id userId : String) : Option Preflight :=
  s.preflights[id]?.filter fun p => p.usableBy userId

def claimPreflight (s : MemoryStore) (id userId : String) (now : Instant) :
    Option Preflight × MemoryStore :=
  match s.getPreflight id userId with
  | none => (none, s)
  | some p =>
    let next := { p with consumedAt := some now }
    (some next, { s with preflights := s.preflights.insert id next })

/-- The answer of a call and the state after it. -/
def perform (s : MemoryStore) : (c : StoreCall) → c.Reply × MemoryStore
  | .healthCheck => (.ok (), s)
  | .getTargetGroup id => (.ok s.targetGroups[id]?, s)
  | .listTargetGroups page => (s.listTargetGroups page, s)
  | .insertTargetGroup group => s.insertTargetGroup group
  | .getDeployment id => (.ok s.deployments[id]?, s)
  | .upsertDeployment deployment guard => s.upsertDeployment deployment guard
  | .findDeployment targetGroupId => (.ok (s.findDeployment targetGroupId), s)
  | .assignDeployment id provider assignment => s.assignDeployment id provider assignment
  | .clearAssignment id targetGroupId => s.clearAssignment id targetGroupId
  | .putPreflight preflight =>
    (.ok (), { s with preflights := s.preflights.insert preflight.id preflight })
  | .getPreflight id userId => (.ok (s.getPreflight id userId), s)
  | .claimPreflight id userId now =>
    let (found, s) := s.claimPreflight id userId now
    (.ok found, s)
  | .putRequest request => (.ok (), { s with requests := s.requests.insert request.id request })
  | .getRequest id => (.ok s.requests[id]?, s)
  | .listRequestsFor userId page => (s.listRequestsFor userId page, s)
  | .listRequests page => (s.listRequests page, s)
  | .getTarget id => (.ok s.targets[id]?, s)
  | .putTarget target => (.ok (), { s with targets := s.targets.insert target.id target })
  | .listTargets page => (s.listTargets page, s)
  | .getArgOptions providerId argId => (.ok s.argOptions[ArgKey.mk providerId argId]?, s)
  | .putArgOptions options =>
    (.ok (),
      { s with
        argOptions := s.argOptions.insert ⟨options.providerId, options.argId⟩ options })

def preflightCount (s : MemoryStore) : Nat := s.preflights.size

def requestCount (s : MemoryStore) : Nat := s.requests.size

end MemoryStore

end AccessGrants
