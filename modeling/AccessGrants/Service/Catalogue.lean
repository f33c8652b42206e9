import AccessGrants.Service.Proc

/-!
# AccessGrants.Service.Catalogue

The cached entitlements and the argument options of providers.

* `listTargets`        — the targets that a user may request. A page is filtered after it was read,
                         so it may hold fewer items than others.
* `ArgOptionCache.load`, `ArgOptionCache.refresh` — the kept options, and a fresh copy of them.
* `ArgOptionCache.listFor` — the options that a user may see.
-/

namespace AccessGrants

namespace Catalogue

def listTargets (user : User) (page : Option String) : Service (Page Target) := do
  let found ← Service.store (.listTargets page)
  return { found with items := Target.visible user.groups found.items }

def putTarget (target : Target) : Service Target := do
  Service.store (.putTarget target)
  return target

end Catalogue

namespace ArgOptionCache

/-- The kept options, without asking the option source. The flag is whether there were any. -/
def load (providerId argId : String) : Service (Bool × ArgOptions) := do
  match ← Service.store (.getArgOptions providerId argId) with
  | some cached => return (true, cached.content)
  | none => return (false, .empty)

/-- Asks the option source and keeps what it answers. The flag is whether it knows the argument. -/
def refresh (providerId argId : String) : Service (Bool × ArgOptions) := do
  match ← Service.ask (.fetchOptions providerId argId) with
  | .error detail =>
    Service.count (.optionRefresh .error)
    throw (.internal detail)
  | .ok none =>
    Service.count (.optionRefresh .missing)
    return (false, .empty)
  | .ok (some options) =>
    let now ← Service.now
    Service.store (.putArgOptions ⟨providerId, argId, options, now⟩)
    Service.count (.optionRefresh .refreshed)
    return (true, options)

/-- The kept options; the option source is asked when there are none. -/
def loadOrRefresh (providerId argId : String) : Service (Bool × ArgOptions) := do
  let (hit, options) ← load providerId argId
  if hit then return (true, options) else refresh providerId argId

/-- The options that a user may see. A forced listing always asks the option source. -/
def listFor (user : User) (providerId argId : String) (forced : Bool) : Service ArgOptions := do
  let (found, options) ←
    if forced then refresh providerId argId else loadOrRefresh providerId argId
  if found then return options.visibleTo user.groups
  else throw (.notFound ("options for argument " ++ argId ++ " of provider " ++ providerId))

end ArgOptionCache

end AccessGrants
