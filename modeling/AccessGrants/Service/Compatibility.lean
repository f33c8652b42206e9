import AccessGrants.Service.Proc

/-!
# AccessGrants.Service.Compatibility

Comparison of the target schemas that providers declare in the registry.

* `targetSchema`  — the declared schema of a provider.
* `areCompatible` — whether two providers declare the same schema.
-/

namespace AccessGrants.Compatibility

/-- The target schema of a provider; an answer without success is a failure of the registry. -/
def targetSchema (provider : Provider) : Service Json := do
  match ← Service.ask (.lookup provider) with
  | .error e => throw (.ofRegistry e)
  | .ok answer =>
    match answer.detail with
    | some detail =>
      if answer.isSuccess then return detail.target else throw (refused answer)
    | none => throw (refused answer)
where
  refused (answer : RegistryAnswer) : ServiceError :=
    .registryFailed ("lookup of " ++ provider.render ++ " returned status " ++
      Nat.repr answer.status ++ ": " ++ answer.body)

/-- Both schemas are looked up, the first one first. -/
def areCompatible (a b : Provider) : Service Bool := do
  let schemaA ← targetSchema a
  let schemaB ← targetSchema b
  return decide (schemaA.Equivalent schemaB)

/-- Compares two schema target references; both are read before any look-up. -/
def areCompatibleRefs (a b : String) : Service Bool := do
  match Provider.parseSchemaRef a with
  | .error e => throw (.invalidReference e)
  | .ok a =>
    match Provider.parseSchemaRef b with
    | .error e => throw (.invalidReference e)
    | .ok b => areCompatible a b

end AccessGrants.Compatibility
