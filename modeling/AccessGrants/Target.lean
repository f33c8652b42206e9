import AccessGrants.Names

/-!
# AccessGrants.Target

Requestable entitlements, as cached from their provider.

* `Target`           — one entitlement with the access rule that exposes it.
* `Target.visibleTo` — a target is visible through one of its groups, so one without groups is
                       visible to nobody.
-/

namespace AccessGrants

structure Target where
  id : String
  targetGroupId : String
  accessRule : String
  fields : Parameters
  groups : Names
  reviewers : Names
  deriving DecidableEq, Inhabited

namespace Target

def visibleTo (t : Target) (groups : Names) : Bool :=
  t.groups.meets groups

/-- The visible targets, in order. -/
def visible (groups : Names) (targets : List Target) : List Target :=
  targets.filter fun t => t.visibleTo groups

end Target

end AccessGrants
