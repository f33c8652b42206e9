import AccessGrants.Json.Basic
import AccessGrants.Text.Split

/-!
# AccessGrants.Provider

Provider builds, their two written references, and what the provider registry holds about them.

* `Provider`                 — publisher, name and version.
* `Provider.parse`           — reads `publisher/name@version`.
* `Provider.parseSchemaRef`  — reads `publisher/name/version`.
* `ProviderDetail`           — a build with the schema that it declares for targets.
-/

namespace AccessGrants

structure Provider where
  publisher : String
  name : String
  version : String
  deriving DecidableEq, Repr, Inhabited

/-- A text that is not a reference of the wanted form. -/
structure InvalidReference where
  input : String
  deriving DecidableEq, Repr

namespace InvalidReference

def message (e : InvalidReference) : String :=
  "provider reference '" ++ e.input ++ "' is not in the expected format"

end InvalidReference

namespace Provider

/-- The canonical reference, `publisher/name@version`. -/
def render (p : Provider) : String :=
  p.publisher ++ "/" ++ p.name ++ "@" ++ p.version

/-- The schema target reference, `publisher/name/version`. -/
def schemaRef (p : Provider) : String :=
  p.publisher ++ "/" ++ p.name ++ "/" ++ p.version

/-- Reads a canonical reference: one `@`, and one `/` before it. Segments may be empty. -/
def parse (text : String) : Except InvalidReference Provider :=
  match Text.split '@' text.toList with
  | [path, version] =>
    match Text.split '/' path with
    | [publisher, name] =>
      .ok ⟨String.ofList publisher, String.ofList name, String.ofList version⟩
    | _ => .error ⟨text⟩
  | _ => .error ⟨text⟩

/-- Reads a schema target reference: two `/`. Segments may be empty. -/
def parseSchemaRef (text : String) : Except InvalidReference Provider :=
  match Text.split '/' text.toList with
  | [publisher, name, version] =>
    .ok ⟨String.ofList publisher, String.ofList name, String.ofList version⟩
  | _ => .error ⟨text⟩

end Provider

/-- A registry document: a build and the target schema that it declares. -/
structure ProviderDetail where
  provider : Provider
  target : Json
  deriving DecidableEq, Inhabited

end AccessGrants
