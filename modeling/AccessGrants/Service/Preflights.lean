import AccessGrants.Service.Proc

/-!
# AccessGrants.Service.Preflights

Validates a set of requested targets for a user and keeps the result as a single-use draft.

* `createPreflight` — nothing is written unless every target is unique and authorized.
* `getPreflight`    — a preflight that its owner may still use.
-/

namespace AccessGrants.Preflights

/-- Reads the targets in order. Each one is authorized before it is read. -/
def resolve (user : User) : List String → Service (List Target)
  | [] => return []
  | id :: rest => do
    if ← Service.verdict (← Service.call (.mayRequest user id)) then
      let target ← Service.orNotFound ("target " ++ id) (← Service.store (.getTarget id))
      return target :: (← resolve user rest)
    else
      Service.count (.preflight .unauthorized)
      throw (.unauthorisedTarget id)

/-- Gives every group of targets a fresh id, in order. -/
def nameGroups : List (String × List Target) → Service (List PreflightGroup)
  | [] => return []
  | (rule, targets) :: rest => do
    let id ← Service.freshId
    return ⟨id, rule, targets⟩ :: (← nameGroups rest)

/-- A new preflight for resolved targets. -/
def draft (userId : String) (targets : List Target) (now : Instant) : Service Preflight := do
  let groups ← nameGroups (Preflight.byRule targets)
  let id ← Service.freshId
  return Preflight.create id userId targets groups now

def createPreflight (user : User) (targetIds : List String) : Service Preflight := do
  if targetIds.isEmpty then
    Service.count (.preflight .invalid)
    throw (.invalidRequest "at least one target must be requested")
  else if ¬ targetIds.Nodup then
    Service.count (.preflight .duplicate)
    throw .duplicateTargets
  else
    let targets ← resolve user targetIds
    let preflight ← draft user.id targets (← Service.now)
    Service.store (.putPreflight preflight)
    Service.count (.preflight .created)
    return preflight

def getPreflight (user : User) (id : String) : Service Preflight := do
  Service.orNotFound ("preflight " ++ id) (← Service.store (.getPreflight id user.id))

end AccessGrants.Preflights
