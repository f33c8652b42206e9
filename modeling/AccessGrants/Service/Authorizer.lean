import AccessGrants.Service.Proc

/-!
# AccessGrants.Service.Authorizer

Authorization by identity groups: a user may request a cached target that is visible through one of
the user's groups, administrators are the members of one group, and reviewers are those that a
request lists.

* `GroupAuthorizer` — the group of the administrators.
-/

namespace AccessGrants

structure GroupAuthorizer where
  adminGroup : String
  deriving DecidableEq, Repr

namespace GroupAuthorizer

/-- One read of the cached target; an unknown target may not be requested. -/
def mayRequest (user : User) (targetId : String) : ResourceProc (Except String Bool) := do
  match ← Interaction.call (Resource.store (.getTarget targetId)) with
  | .ok target => return .ok (target.any (·.visibleTo user.groups))
  | .error e => return .error e.message

def isAdmin (a : GroupAuthorizer) (user : User) : Bool :=
  user.inGroup a.adminGroup

def isReviewer (user : User) (request : AccessRequest) : Bool :=
  request.hasReviewer user

end GroupAuthorizer

end AccessGrants
