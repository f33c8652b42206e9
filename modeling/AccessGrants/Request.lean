import AccessGrants.Grant
import AccessGrants.Target
import AccessGrants.User

/-!
# AccessGrants.Request

Access requests: groups of targets, each with the grants that were issued for it.

* `AccessGroup`                — targets granted together for one duration.
* `AccessRequest`              — what a user submitted and what came of it.
* `AccessRequest.expireElapsed`— expires the grants whose end has come.
* `AccessRequest.applyUpdates` — takes over changed copies of grants.
-/

namespace AccessGrants

structure AccessGroup where
  id : String
  requestId : String
  accessRule : String
  targets : List Target
  durationSeconds : Int
  grants : List Grant
  deriving DecidableEq, Inhabited

structure AccessRequest where
  id : String
  preflightId : String
  requestedBy : Requester
  reason : Option String
  groups : List AccessGroup
  reviewers : Names
  createdAt : Instant
  updatedAt : Instant
  deriving DecidableEq, Inhabited

namespace AccessGroup

/-- The duration of the group; none when its milliseconds do not fit 64 bits. -/
def duration? (g : AccessGroup) : Option Int :=
  if -Instant.greatestDuration ≤ g.durationSeconds ∧ g.durationSeconds ≤ Instant.greatestDuration
  then some g.durationSeconds
  else none

end AccessGroup

namespace AccessRequest

/-- All grants, group by group. -/
def grants (r : AccessRequest) : List Grant :=
  r.groups.flatMap (·.grants)

/-- Changes every grant and nothing else. -/
def mapGrants (r : AccessRequest) (f : Grant → Grant) : AccessRequest :=
  { r with groups := r.groups.map fun g => { g with grants := g.grants.map f } }

def hasReviewer (r : AccessRequest) (user : User) : Bool :=
  r.reviewers.contains user.id || r.reviewers.contains user.email

/-- Expires the elapsed grants. The flag is whether there were any; only then the request counts as
updated. -/
def expireElapsed (r : AccessRequest) (now : Instant) : AccessRequest × Bool :=
  if r.grants.any (·.elapsed now) then
    ({ r.mapGrants (·.expireIfElapsed now) with updatedAt := now }, true)
  else (r, false)

/-- The first updated copy of a grant. -/
def update? (updated : List Grant) (g : Grant) : Option Grant :=
  updated.find? fun u => u.id = g.id

/-- Replaces the grants that have an updated copy, and counts them. -/
def applyUpdates (r : AccessRequest) (updated : List Grant) (now : Instant) : AccessRequest × Nat :=
  let count := r.grants.countP fun g => (update? updated g).isSome
  let replaced := r.mapGrants fun g => (update? updated g).getD g
  (if 0 < count then { replaced with updatedAt := now } else replaced, count)

end AccessRequest

end AccessGrants
