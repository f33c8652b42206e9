import AccessGrants.ArgOptions
import Mathlib.Data.List.Count
import Mathlib.Data.List.Forall2
import Mathlib.Logic.Relation

/-!
# AccessGrants.Proofs.Catalogue.Membership

What a user with some identity groups may see of the options for an argument.

* `ArgOption.OpenTo`      — an option is unrestricted, or restricted to a group of the user.
* `ArgOption.Kept`        — the open ones of some options, in order and as often as they stand there.
* `ArgOptionGroup.Opened` — a bundle with its open options only.
* `ArgOptions.Shown`      — the open options, and the bundles that have one.
* `ArgOptions.Omits`      — one hidden option, or one bundle of hidden options, is left out.
* `omits_visibleTo`       — to leave out all that is hidden is to end with what is shown.
* `membership_filter`     — what is shown is that and no more, and two answers are shown alike exactly
                            when they differ in nothing but what is hidden.
-/

namespace AccessGrants

theorem Names.meets_iff {a b : Names} : a.meets b = true ↔ ∃ name, name ∈ a ∧ name ∈ b := by
  simp [meets]

namespace ArgOption

/-- The option is unrestricted, or one of its groups is among these. -/
def OpenTo (o : ArgOption) (groups : Names) : Prop :=
  (∀ name, name ∉ o.groups) ∨ ∃ name, name ∈ o.groups ∧ name ∈ groups

theorem visibleTo_iff {o : ArgOption} {groups : Names} :
    o.visibleTo groups = true ↔ o.OpenTo groups := by
  have hempty : o.groups.isEmpty = true ↔ ∀ name, name ∉ o.groups := by
    rw [Std.ExtTreeSet.isEmpty_iff]
    exact Std.ExtTreeSet.eq_empty_iff_forall_not_mem
  rw [visibleTo, Bool.or_eq_true, hempty, Names.meets_iff, OpenTo]

instance (o : ArgOption) (groups : Names) : Decidable (o.OpenTo groups) :=
  decidable_of_iff _ visibleTo_iff

/-- The open ones of some options, in their order and as often as they stand there. -/
structure Kept (groups : Names) (options kept : List ArgOption) : Prop where
  inOrder : kept.Sublist options
  count : ∀ o, kept.count o = if o.OpenTo groups then options.count o else 0

variable {o : ArgOption} {options before after : List ArgOption} {groups more : Names}

/-- More groups open more. -/
theorem OpenTo.mono (hsub : ∀ name ∈ groups, name ∈ more) (h : o.OpenTo groups) :
    o.OpenTo more := by
  rcases h with hfree | ⟨name, ho, hg⟩
  · exact .inl hfree
  · exact .inr ⟨name, ho, hsub name hg⟩

@[simp] theorem visible_nil : visible groups [] = [] := rfl

@[simp] theorem visible_append :
    visible groups (before ++ after) = visible groups before ++ visible groups after := by
  simp [visible]

theorem visible_cons_of_open (h : o.OpenTo groups) :
    visible groups (o :: options) = o :: visible groups options := by
  simp [visible, visibleTo_iff, h]

theorem visible_cons_of_hidden (h : ¬ o.OpenTo groups) :
    visible groups (o :: options) = visible groups options := by
  simp [visible, visibleTo_iff, h]

theorem visible_eq_nil_iff : visible groups options = [] ↔ ∀ o ∈ options, ¬ o.OpenTo groups := by
  simp [visible, visibleTo_iff]

theorem kept_visible (groups : Names) (options : List ArgOption) :
    Kept groups options (visible groups options) where
  inOrder := List.filter_sublist
  count o := by
    split
    · rename_i h
      exact List.count_filter (visibleTo_iff.mpr h)
    · rename_i h
      refine List.count_eq_zero.mpr fun hmem => h ?_
      exact visibleTo_iff.mp (List.mem_filter.mp hmem).2

/-- What is shown to one with more groups can be filtered by the others once more. -/
theorem visible_visible (hsub : ∀ name ∈ groups, name ∈ more) (options : List ArgOption) :
    visible groups (visible more options) = visible groups options := by
  induction options with
  | nil => rfl
  | cons o options ih =>
    by_cases hmore : o.OpenTo more
    · rw [visible_cons_of_open hmore]
      by_cases h : o.OpenTo groups
      · rw [visible_cons_of_open h, visible_cons_of_open h, ih]
      · rw [visible_cons_of_hidden h, visible_cons_of_hidden h, ih]
    · have h : ¬ o.OpenTo groups := fun h => hmore (h.mono hsub)
      rw [visible_cons_of_hidden hmore, visible_cons_of_hidden h, ih]

end ArgOption

open ArgOption (Kept visible)

namespace ArgOptionGroup

/-- The bundle has an option that is open to these groups. -/
def OpenTo (g : ArgOptionGroup) (groups : Names) : Prop :=
  ∃ o ∈ g.options, o.OpenTo groups

instance (g : ArgOptionGroup) (groups : Names) : Decidable (g.OpenTo groups) :=
  inferInstanceAs (Decidable (∃ o ∈ g.options, o.OpenTo groups))

/-- The bundle with its open options only. -/
structure Opened (groups : Names) (g opened : ArgOptionGroup) : Prop where
  id : opened.id = g.id
  title : opened.title = g.title
  options : Kept groups g.options opened.options

variable {g : ArgOptionGroup} {groups more : Names}

theorem not_openTo_iff : ¬ g.OpenTo groups ↔ visible groups g.options = [] := by
  simp [OpenTo, ArgOption.visible_eq_nil_iff]

theorem visibleTo?_of_open (h : g.OpenTo groups) :
    g.visibleTo? groups = some { g with options := visible groups g.options } := by
  rw [visibleTo?]
  split
  · rename_i hnil
    exact absurd h (not_openTo_iff.mpr hnil)
  · rfl

theorem visibleTo?_of_hidden (h : ¬ g.OpenTo groups) : g.visibleTo? groups = none := by
  rw [visibleTo?, not_openTo_iff.mp h]

theorem visibleTo?_congr {id title : String} {options options' : List ArgOption}
    (h : visible groups options = visible groups options') :
    (mk id title options).visibleTo? groups = (mk id title options').visibleTo? groups := by
  simp only [visibleTo?, h]

theorem visibleTo?_bind (hsub : ∀ name ∈ groups, name ∈ more) (g : ArgOptionGroup) :
    (g.visibleTo? more).bind (·.visibleTo? groups) = g.visibleTo? groups := by
  have hvisible := ArgOption.visible_visible hsub g.options
  by_cases hmore : g.OpenTo more
  · rw [visibleTo?_of_open hmore, Option.bind_some, visibleTo?, hvisible, visibleTo?]
  · have h : ¬ g.OpenTo groups := fun ⟨o, ho, hopen⟩ => hmore ⟨o, ho, hopen.mono hsub⟩
    rw [visibleTo?_of_hidden hmore, visibleTo?_of_hidden h, Option.bind_none]

end ArgOptionGroup

namespace ArgOptions

/-- The open options, and the bundles that have one with their open options only, all in order. -/
structure Shown (groups : Names) (o shown : ArgOptions) : Prop where
  options : Kept groups o.options shown.options
  grouped : List.Forall₂ (ArgOptionGroup.Opened groups) (o.grouped.filter (·.OpenTo groups))
    shown.grouped

/-- One option is left out, alone or of a bundle, or one whole bundle, and all that is left out is
hidden from these groups. -/
inductive Omits (groups : Names) : ArgOptions → ArgOptions → Prop
  | option {o : ArgOption} {before after : List ArgOption} {grouped : List ArgOptionGroup} :
      ¬ o.OpenTo groups → Omits groups ⟨before ++ o :: after, grouped⟩ ⟨before ++ after, grouped⟩
  | bundled {o : ArgOption} {options before after : List ArgOption} {id title : String}
      {earlier later : List ArgOptionGroup} : ¬ o.OpenTo groups →
      Omits groups ⟨options, earlier ++ ⟨id, title, before ++ o :: after⟩ :: later⟩
        ⟨options, earlier ++ ⟨id, title, before ++ after⟩ :: later⟩
  | bundle {g : ArgOptionGroup} {options : List ArgOption} {earlier later : List ArgOptionGroup} :
      (∀ o ∈ g.options, ¬ o.OpenTo groups) →
      Omits groups ⟨options, earlier ++ g :: later⟩ ⟨options, earlier ++ later⟩

/-- The answers differ in nothing but options that are hidden from these groups, bundles of hidden
options included. -/
def DifferHidden (groups : Names) : ArgOptions → ArgOptions → Prop :=
  Relation.EqvGen (Omits groups)

variable {o o' : ArgOptions} {g : ArgOptionGroup} {grouped : List ArgOptionGroup}
  {groups more : Names}

/-- The bundles that are shown. -/
def bundles (groups : Names) (grouped : List ArgOptionGroup) : List ArgOptionGroup :=
  grouped.filterMap fun g => g.visibleTo? groups

theorem visibleTo_eq (o : ArgOptions) (groups : Names) :
    o.visibleTo groups = ⟨visible groups o.options, bundles groups o.grouped⟩ := rfl

@[simp] theorem bundles_append (earlier later : List ArgOptionGroup) :
    bundles groups (earlier ++ later) = bundles groups earlier ++ bundles groups later :=
  List.filterMap_append

theorem bundles_cons_of_open (h : g.OpenTo groups) :
    bundles groups (g :: grouped) =
      { g with options := visible groups g.options } :: bundles groups grouped :=
  List.filterMap_cons_some (ArgOptionGroup.visibleTo?_of_open h)

theorem bundles_cons_of_hidden (h : ¬ g.OpenTo groups) :
    bundles groups (g :: grouped) = bundles groups grouped :=
  List.filterMap_cons_none (ArgOptionGroup.visibleTo?_of_hidden h)

theorem bundles_cons_congr {g' : ArgOptionGroup} (h : g.visibleTo? groups = g'.visibleTo? groups) :
    bundles groups (g :: grouped) = bundles groups (g' :: grouped) := by
  simp only [bundles, List.filterMap_cons, h]

theorem opened_bundles (groups : Names) (grouped : List ArgOptionGroup) :
    List.Forall₂ (ArgOptionGroup.Opened groups) (grouped.filter (·.OpenTo groups))
      (bundles groups grouped) := by
  induction grouped with
  | nil => exact .nil
  | cons g grouped ih =>
    by_cases h : g.OpenTo groups
    · rw [List.filter_cons_of_pos (by simpa using h), bundles_cons_of_open h]
      exact .cons ⟨rfl, rfl, ArgOption.kept_visible groups g.options⟩ ih
    · rw [List.filter_cons_of_neg (by simpa using h), bundles_cons_of_hidden h]
      exact ih

theorem shown_visibleTo (groups : Names) (o : ArgOptions) : Shown groups o (o.visibleTo groups) :=
  ⟨ArgOption.kept_visible groups o.options, opened_bundles groups o.grouped⟩

theorem visibleTo_visibleTo (hsub : ∀ name ∈ groups, name ∈ more) (o : ArgOptions) :
    (o.visibleTo more).visibleTo groups = o.visibleTo groups := by
  simp only [visibleTo, ArgOption.visible_visible hsub, List.filterMap_filterMap,
    ArgOptionGroup.visibleTo?_bind hsub]

/-! ## What is left out is not missed -/

theorem Omits.visibleTo_eq (h : Omits groups o o') : o.visibleTo groups = o'.visibleTo groups := by
  cases h with
  | option ho => simp [visibleTo_eq, ArgOption.visible_cons_of_hidden ho]
  | @bundled o options before after id title earlier later ho =>
    have hsame : visible groups (before ++ o :: after) = visible groups (before ++ after) := by
      simp [ArgOption.visible_cons_of_hidden ho]
    simp [visibleTo_eq, bundles_cons_congr (ArgOptionGroup.visibleTo?_congr hsame)]
  | bundle hg =>
    have hidden := ArgOptionGroup.not_openTo_iff.mpr (ArgOption.visible_eq_nil_iff.mpr hg)
    simp [visibleTo_eq, bundles_cons_of_hidden hidden]

theorem DifferHidden.visibleTo_eq (h : DifferHidden groups o o') :
    o.visibleTo groups = o'.visibleTo groups := by
  induction h with
  | rel o o' h => exact h.visibleTo_eq
  | refl o => rfl
  | symm o o' _ ih => exact ih.symm
  | trans o o' o'' _ _ ih ih' => exact ih.trans ih'

/-! ## All that is hidden can be left out -/

open Relation (ReflTransGen)

/-- The options before these are done with. -/
theorem omits_options (before options : List ArgOption) (grouped : List ArgOptionGroup) :
    ReflTransGen (Omits groups) ⟨before ++ options, grouped⟩
      ⟨before ++ visible groups options, grouped⟩ := by
  induction options generalizing before with
  | nil => exact .refl
  | cons o options ih =>
    by_cases h : o.OpenTo groups
    · rw [ArgOption.visible_cons_of_open h, List.append_cons before o options,
        List.append_cons before o (visible groups _)]
      exact ih (before ++ [o])
    · rw [ArgOption.visible_cons_of_hidden h]
      exact .head (.option h) (ih before)

theorem omits_bundled (options : List ArgOption) (earlier later : List ArgOptionGroup)
    (id title : String) (before bundled : List ArgOption) :
    ReflTransGen (Omits groups) ⟨options, earlier ++ ⟨id, title, before ++ bundled⟩ :: later⟩
      ⟨options, earlier ++ ⟨id, title, before ++ visible groups bundled⟩ :: later⟩ := by
  induction bundled generalizing before with
  | nil => exact .refl
  | cons o bundled ih =>
    by_cases h : o.OpenTo groups
    · rw [ArgOption.visible_cons_of_open h, List.append_cons before o bundled,
        List.append_cons before o (visible groups _)]
      exact ih (before ++ [o])
    · rw [ArgOption.visible_cons_of_hidden h]
      exact .head (.bundled h) (ih before)

/-- The bundles before these are done with. -/
theorem omits_grouped (options : List ArgOption) (earlier grouped : List ArgOptionGroup) :
    ReflTransGen (Omits groups) ⟨options, earlier ++ grouped⟩
      ⟨options, earlier ++ bundles groups grouped⟩ := by
  induction grouped generalizing earlier with
  | nil => exact .refl
  | cons g grouped ih =>
    by_cases h : g.OpenTo groups
    · rw [bundles_cons_of_open h]
      refine (omits_bundled options earlier grouped g.id g.title [] g.options).trans ?_
      rw [List.append_cons earlier _ grouped, List.append_cons earlier _ (bundles groups grouped)]
      exact ih _
    · rw [bundles_cons_of_hidden h]
      have hidden := ArgOption.visible_eq_nil_iff.mp (ArgOptionGroup.not_openTo_iff.mp h)
      exact .head (.bundle hidden) (ih earlier)

/-- Leaving out what is hidden, piece by piece, ends with what is shown. -/
theorem omits_visibleTo (groups : Names) (o : ArgOptions) :
    ReflTransGen (Omits groups) o (o.visibleTo groups) :=
  (omits_options [] o.options o.grouped).trans
    (omits_grouped (visible groups o.options) [] o.grouped)

theorem differHidden_visibleTo (groups : Names) (o : ArgOptions) :
    DifferHidden groups o (o.visibleTo groups) :=
  Relation.EqvGen.reflTransGen_le_eqvGen (Omits groups) _ _ (omits_visibleTo groups o)

/-- Of an answer exactly the open options are shown, and exactly the bundles that have one, under
their ids and titles, all in order and as often as they stand there. To filter again changes nothing,
and one with fewer groups sees what is left of the view of one with more. Two answers are shown alike
exactly when they differ in nothing but what is hidden. -/
theorem membership_filter (o : ArgOptions) (groups : Names) :
    Shown groups o (o.visibleTo groups) ∧
    (o.visibleTo groups).visibleTo groups = o.visibleTo groups ∧
    (∀ more : Names, (∀ name ∈ groups, name ∈ more) →
      (o.visibleTo more).visibleTo groups = o.visibleTo groups) ∧
    ∀ o' : ArgOptions, DifferHidden groups o o' ↔ o.visibleTo groups = o'.visibleTo groups := by
  refine ⟨shown_visibleTo groups o, visibleTo_visibleTo (fun _ h => h) o,
    fun more hsub => visibleTo_visibleTo hsub o, fun o' => ⟨DifferHidden.visibleTo_eq, fun h => ?_⟩⟩
  have hleft := differHidden_visibleTo groups o
  rw [h] at hleft
  exact .trans _ _ _ hleft (.symm _ _ (differHidden_visibleTo groups o'))

/-! ## Two accounts -/

namespace Accounts

def free (value : String) : ArgOption := ⟨value, value, none, ∅⟩

def restricted (value group : String) : ArgOption := ⟨value, value, none, .ofNames [group]⟩

def engineers : Names := .ofNames ["eng"]

def everyone : Names := .ofNames ["eng", "sre"]

def guarded : ArgOptions :=
  ⟨[free "dev"],
    [⟨"ou-1", "Production", [restricted "prod" "sre"]⟩,
      ⟨"ou-2", "Sandbox", [free "box", restricted "box-admin" "sre"]⟩]⟩

/-- For engineers the same; a bundle that they do not see has come and another one has gone. -/
def renamed : ArgOptions :=
  ⟨[restricted "root" "sre", free "dev"], [⟨"ou-2", "Sandbox", [free "box"]⟩, ⟨"ou-3", "Vault", []⟩]⟩

theorem guarded_like_renamed :
    (∀ name ∈ engineers, name ∈ everyone) ∧
    (guarded.visibleTo everyone).visibleTo engineers = guarded.visibleTo engineers ∧
    guarded.visibleTo engineers = renamed.visibleTo engineers ∧
    DifferHidden engineers guarded renamed := by
  obtain ⟨-, -, hcompose, halike⟩ := membership_filter guarded engineers
  have hsub : ∀ name ∈ engineers, name ∈ everyone := by simp [engineers, everyone, Names.ofNames]
  have hsame : guarded.visibleTo engineers = renamed.visibleTo engineers := by decide +kernel
  exact ⟨hsub, hcompose everyone hsub, hsame, (halike renamed).mpr hsame⟩

end Accounts

end ArgOptions

end AccessGrants
