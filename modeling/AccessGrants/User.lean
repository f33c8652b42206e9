import AccessGrants.Names

/-!
# AccessGrants.User

The caller, as the session layer identified it.

* `User`      — id, email and identity groups.
* `Requester` — the part of a user that a request keeps.
-/

namespace AccessGrants

structure User where
  id : String
  email : String
  groups : Names
  deriving DecidableEq, Inhabited

structure Requester where
  id : String
  email : String
  deriving DecidableEq, Repr, Inhabited

namespace User

def inGroup (u : User) (group : String) : Bool :=
  u.groups.contains group

def requester (u : User) : Requester :=
  ⟨u.id, u.email⟩

end User

end AccessGrants
