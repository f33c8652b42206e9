import AccessGrants.Target
import AccessGrants.Time.Instant

/-!
# AccessGrants.Preflight

A preflight is a validated draft of a request that can be used once.

* `Preflight`         — the requested targets, grouped by access rule.
* `Preflight.byRule`  — the grouping: rules in the order in which they are first seen, and the
                        targets of a rule in the order of the request.
-/

namespace AccessGrants

/-- Targets of one preflight that share an access rule and are granted together. -/
structure PreflightGroup where
  id : String
  accessRule : String
  targets : List Target
  deriving DecidableEq, Inhabited

structure Preflight where
  id : String
  userId : String
  requestedTargets : List String
  accessGroups : List PreflightGroup
  createdAt : Instant
  consumedAt : Option Instant
  deriving DecidableEq, Inhabited

namespace Preflight

/-- Adds a target to the group of its rule; a new rule opens a group at the end. -/
def addByRule (target : Target) : List (String × List Target) → List (String × List Target)
  | [] => [(target.accessRule, [target])]
  | (rule, targets) :: rest =>
    if rule = target.accessRule then (rule, targets ++ [target]) :: rest
    else (rule, targets) :: addByRule target rest

def byRule (targets : List Target) : List (String × List Target) :=
  targets.foldl (fun groups target => addByRule target groups) []

/-- A fresh preflight for targets whose groups have been named. -/
def create (id userId : String) (targets : List Target) (groups : List PreflightGroup)
    (now : Instant) : Preflight :=
  ⟨id, userId, targets.map (·.id), groups, now, none⟩

def isConsumed (p : Preflight) : Bool :=
  p.consumedAt.isSome

/-- Whether a user may still use the preflight. -/
def usableBy (p : Preflight) (userId : String) : Bool :=
  p.userId = userId && !p.isConsumed

def accessGroup? (p : Preflight) (id : String) : Option PreflightGroup :=
  p.accessGroups.find? fun g => g.id = id

end Preflight

end AccessGrants
