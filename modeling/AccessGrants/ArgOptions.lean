import AccessGrants.Names
import AccessGrants.Time.Instant

/-!
# AccessGrants.ArgOptions

The values that a provider offers for one of its arguments, alone or bundled under a title.

* `ArgOption`            — one value; one without groups is unrestricted.
* `ArgOptions`           — everything that a provider answers for an argument.
* `ArgOptions.visibleTo` — what a user with some identity groups may see of it.
* `CachedArgOptions`     — an answer kept under its provider and argument.
-/

namespace AccessGrants

structure ArgOption where
  value : String
  label : String
  description : Option String
  groups : Names
  deriving DecidableEq, Inhabited

/-- Options bundled under a title. -/
structure ArgOptionGroup where
  id : String
  title : String
  options : List ArgOption
  deriving DecidableEq, Inhabited

structure ArgOptions where
  options : List ArgOption
  grouped : List ArgOptionGroup
  deriving DecidableEq, Inhabited

structure CachedArgOptions where
  providerId : String
  argId : String
  content : ArgOptions
  fetchedAt : Instant
  deriving DecidableEq, Inhabited

namespace ArgOption

def visibleTo (o : ArgOption) (groups : Names) : Bool :=
  o.groups.isEmpty || o.groups.meets groups

/-- The visible options, in order. -/
def visible (groups : Names) (options : List ArgOption) : List ArgOption :=
  options.filter fun o => o.visibleTo groups

end ArgOption

namespace ArgOptionGroup

/-- The group with its visible options only; none when there are none. -/
def visibleTo? (g : ArgOptionGroup) (groups : Names) : Option ArgOptionGroup :=
  match ArgOption.visible groups g.options with
  | [] => none
  | options => some { g with options }

end ArgOptionGroup

namespace ArgOptions

def empty : ArgOptions := ⟨[], []⟩

def visibleTo (o : ArgOptions) (groups : Names) : ArgOptions where
  options := ArgOption.visible groups o.options
  grouped := o.grouped.filterMap fun g => g.visibleTo? groups

end ArgOptions

end AccessGrants
