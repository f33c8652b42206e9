import Std.Data.ExtTreeMap
import Std.Data.ExtTreeSet

/-!
# AccessGrants.Names

Sets of names and maps from names to texts. Both are listed in the order of their names' characters.

* `Names`       — for instance the identity groups of a user.
* `Names.meets` — whether two sets share a name.
* `Parameters`  — for instance the fields that identify a target.
-/

namespace AccessGrants

abbrev Names := Std.ExtTreeSet String

abbrev Parameters := Std.ExtTreeMap String String

namespace Names

def ofNames (names : List String) : Names :=
  names.foldl (fun acc name => acc.insert name) ∅

def union (a b : Names) : Names :=
  b.toList.foldl (fun acc name => acc.insert name) a

def meets (a b : Names) : Bool :=
  a.toList.any fun name => b.contains name

end Names

namespace Parameters

/-- Of equal names the last wins. -/
def ofPairs (pairs : List (String × String)) : Parameters :=
  pairs.foldl (fun acc p => acc.insert p.1 p.2) ∅

end Parameters

end AccessGrants
