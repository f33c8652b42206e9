/-!
# AccessGrants.Store.Basic

What every store has in common.

* `StoreError`      — why a call fails.
* `AssignmentGuard` — the condition under which a deployment may be written.
* `Page`            — one page of a listing.
-/

namespace AccessGrants

inductive StoreError where
  | conditionFailed
  | invalidPageToken
  | backend (detail : String)
  deriving DecidableEq, Repr, Inhabited

namespace StoreError

def message : StoreError → String
  | conditionFailed => "conditional write failed"
  | invalidPageToken => "invalid page token"
  | backend detail => "store backend error: " ++ detail

end StoreError

/-- `unassigned` holds of a deployment that is missing or bound to no target group, `assignedTo` of
one that is bound to this target group. -/
inductive AssignmentGuard where
  | any
  | unassigned
  | assignedTo (targetGroupId : String)
  deriving DecidableEq, Repr, Inhabited

/-- Items and the token of the next page, if there is one. -/
structure Page (α : Type) where
  items : List α
  next : Option String
  deriving DecidableEq, Repr, Inhabited

namespace Page

def map (f : α → β) (p : Page α) : Page β :=
  ⟨p.items.map f, p.next⟩

end Page

/-- Items of a page, unless it is asked for otherwise. -/
def defaultPageSize : Nat := 50

end AccessGrants
