import AccessGrants.Settings

/-!
# AccessGrants.Proofs.Settings.Layer

The layer where every variable of it names a setting as a whole. The order in which its rows are set
is left to chance, but makes no difference there.

* `LayeredSettings.IsPlain`      — keys that are a name and nothing else.
* `LayeredSettings.value?_table` — a name stands for its text in the table, in whatever order.
-/

namespace AccessGrants

namespace LayeredSettings

variable {order : RowOrder} {vars : Variables} {rows : List (String × String)}
  {name text key : String} {before : Option LayeredValue}

def IsPlain (key : String) : Prop :=
  KeyPath.steps? key.toList = some [⟨key, false⟩]

theorem place_of_isPlain (h : IsPlain key) :
    place name before (key, text) = if key = name then some (.text text) else before := by
  rw [place, h]
  rfl

theorem foldl_place_of_not_mem (hplain : ∀ row ∈ rows, IsPlain row.1)
    (h : ∀ text, (name, text) ∉ rows) : rows.foldl (place name) before = before := by
  induction rows with
  | nil => rfl
  | cons row rows ih =>
    obtain ⟨hrow, hplain⟩ := List.forall_mem_cons.mp hplain
    have hne : row.1 ≠ name := by
      rintro rfl
      exact h row.2 List.mem_cons_self
    rw [List.foldl_cons, place_of_isPlain hrow, if_neg hne]
    exact ih hplain fun text hmem => h text (List.mem_cons_of_mem _ hmem)

theorem foldl_place_of_mem (hplain : ∀ row ∈ rows, IsPlain row.1)
    (hone : ∀ text', (name, text') ∈ rows → text' = text) (h : (name, text) ∈ rows) :
    rows.foldl (place name) before = some (.text text) := by
  induction rows generalizing before with
  | nil => cases h
  | cons row rows ih =>
    obtain ⟨hrow, hrows⟩ := List.forall_mem_cons.mp hplain
    have hrest := fun text' hmem => hone text' (List.mem_cons_of_mem _ hmem)
    rw [List.foldl_cons]
    by_cases hmem : (name, text) ∈ rows
    · exact ih hrows hrest hmem
    · obtain rfl : (name, text) = row := (List.mem_cons.mp h).resolve_right hmem
      rw [place_of_isPlain hrow, if_pos rfl]
      refine foldl_place_of_not_mem hrows fun text' htext => hmem ?_
      rwa [← hrest text' htext]

theorem value?_table (horder : ∀ rows, (order rows).Perm rows)
    (hplain : ∀ key ∈ table vars, IsPlain key) :
    value? (order (table vars).toList) name = (table vars)[name]?.map .text := by
  have hmem (key text : String) :
      (key, text) ∈ order (table vars).toList ↔ (table vars)[key]? = some text := by
    rw [(horder _).mem_iff, Std.ExtTreeMap.mem_toList_iff_getElem?_eq_some]
  have hrows : ∀ row ∈ order (table vars).toList, IsPlain row.1 := by
    intro row hrow
    refine hplain row.1 ?_
    rw [Std.ExtTreeMap.mem_iff_isSome_getElem?, (hmem row.1 row.2).mp hrow]
    rfl
  cases hname : (table vars)[name]? with
  | none =>
    refine foldl_place_of_not_mem hrows fun text htext => ?_
    rw [hmem, hname] at htext
    cases htext
  | some text =>
    refine foldl_place_of_mem hrows (fun text' htext => ?_) ((hmem name text).mpr hname)
    rw [hmem, hname] at htext
    exact (Option.some.inj htext).symm

end LayeredSettings

end AccessGrants
