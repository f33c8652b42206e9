import AccessGrants.Text.Percent
import AccessGrants.Text.Split

/-!
# AccessGrants.Http.Query

The query of a request: pairs joined by `&`, each with a name and a value around the first `=`.

* `Query.pairs`   — the pairs, decoded.
* `Query.single?` — the value of a name; a name that is repeated is refused.
* `Query.page`, `Query.refresh` — the two queries that the service reads.
-/

namespace AccessGrants.Query

/-- A plus sign is a blank. What is not UTF-8 becomes one replacement character. -/
def decoded (cs : List Char) : String :=
  (Percent.text? (cs.map fun c => if c = '+' then ' ' else c)).getD "\uFFFD"

/-- Empty pairs are skipped. Without an `=` the value is empty. -/
def pairs (query : String) : List (String × String) :=
  ((Text.split '&' query.toList).filter (· ≠ [])).map fun part =>
    match Text.cut? '=' part with
    | some (name, value) => (decoded name, decoded value)
    | none => (decoded part, "")

/-- Why a query is refused: a name is repeated, or a value is not of its type. -/
inductive Fault where
  | repeated
  | unreadable
  deriving DecidableEq, Repr

def single? (query name : String) : Except Fault (Option String) :=
  match (pairs query).filter fun p => p.1 = name with
  | [] => .ok none
  | [(_, value)] => .ok (some value)
  | _ => .error .repeated

/-- The token of a page. -/
def page (query : String) : Except Fault (Option String) :=
  single? query "next_token"

/-- Whether fresh options are asked for. -/
def refresh (query : String) : Except Fault Bool := do
  match ← single? query "refresh" with
  | none => return false
  | some "true" => return true
  | some "false" => return false
  | some _ => throw .unreadable

end AccessGrants.Query
