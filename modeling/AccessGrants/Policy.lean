/-!
# AccessGrants.Policy

The two choices of an operator that the services depend on.

* `SchemaValidation` — whether a deployment's target schema is checked against its target group's.
* `GrantPolicy`      — how long a grant lasts by default and at most.
-/

namespace AccessGrants

/-- `deferred` leaves the check to the routing layer. -/
inductive SchemaValidation where
  | deferred
  | enforced
  deriving DecidableEq, Repr, Inhabited

/-- Durations in seconds. -/
structure GrantPolicy where
  defaultDuration : Int
  maxDuration : Int
  deriving DecidableEq, Repr, Inhabited

inductive GrantPolicyError where
  | notPositive
  | defaultAboveMax
  deriving DecidableEq, Repr

namespace GrantPolicyError

def message : GrantPolicyError → String
  | notPositive => "grant durations must be positive"
  | defaultAboveMax => "DEFAULT_GRANT_DURATION_SECS must not exceed MAX_GRANT_DURATION_SECS"

end GrantPolicyError

namespace GrantPolicy

/-- One hour, and at most one day. -/
def standard : GrantPolicy := ⟨3600, 86400⟩

def validate (p : GrantPolicy) : Except GrantPolicyError Unit :=
  if p.defaultDuration ≤ 0 ∨ p.maxDuration ≤ 0 then .error .notPositive
  else if p.maxDuration < p.defaultDuration then .error .defaultAboveMax
  else .ok ()

/-- Whether a duration may be asked for. -/
def admits (p : GrantPolicy) (duration : Int) : Bool :=
  0 < duration && duration ≤ p.maxDuration

end GrantPolicy

end AccessGrants
