import AccessGrants.Json.Draft
import Mathlib.Data.List.Nodup
import Mathlib.Data.String.Basic

/-!
# AccessGrants.Proofs.Document.Fields

The fields of an object, looked up by name.

* `InOrder`            — the fields of an object stand in key order, each key once.
* `lookup_insertField` — what a field is after another was put there.
* `Json.Has`           — the value is an object with these fields, and maybe others.
* `ofFields_has`       — an object has the fields that it was made of.
-/

namespace AccessGrants
namespace Json

variable {key name : String} {value : Json} {fields acc : List (String × Json)}

theorem lookup_field {key name : String} {value : α} {rest : List (String × α)} :
    ((key, value) :: rest).lookup name = if name = key then some value else rest.lookup name := by
  rw [List.lookup_cons]
  by_cases h : name = key
  · simp [h]
  · simp [h, beq_eq_false_iff_ne.mpr h]

theorem lookup_map_snd (f : α → β) (fields : List (String × α)) :
    (fields.map fun x => (x.1, f x.2)).lookup name = (fields.lookup name).map f := by
  induction fields with
  | nil => rfl
  | cons x fields ih =>
    rw [List.map_cons, lookup_field, ih, show x = (x.1, x.2) from rfl, lookup_field]
    split <;> rfl

/-- The fields stand in key order, and each key stands there once. -/
def InOrder (fields : List (String × Json)) : Prop :=
  fields.Pairwise fun f g => f.1 < g.1

theorem InOrder.nodup (h : InOrder fields) : (fields.map (·.1)).Nodup := by
  refine List.pairwise_map.mpr (h.imp fun {f g} hlt heq => ?_)
  rw [heq] at hlt
  exact lt_irrefl _ hlt

theorem lookup_insertField :
    (insertField key value fields).lookup name =
      if name = key then some value else fields.lookup name := by
  induction fields with
  | nil => rw [insertField, lookup_field]
  | cons f rest ih =>
    obtain ⟨k, v⟩ := f
    rw [insertField]
    split
    · rw [lookup_field]
    · split
      · rename_i hk
        subst hk
        rw [lookup_field, lookup_field]
        split <;> rfl
      · rename_i hk
        rw [lookup_field, lookup_field, ih]
        split
        · rename_i hname
          subst hname
          rw [if_neg (Ne.symm hk)]
        · rfl

theorem mem_insertField {f : String × Json} (h : f ∈ insertField key value fields) :
    f = (key, value) ∨ f ∈ fields := by
  induction fields with
  | nil => exact .inl (List.mem_singleton.mp h)
  | cons g rest ih =>
    obtain ⟨k, v⟩ := g
    rw [insertField] at h
    split at h
    · exact List.mem_cons.mp h
    · split at h
      · rcases List.mem_cons.mp h with rfl | h
        · exact .inl rfl
        · exact .inr (List.mem_cons_of_mem _ h)
      · rcases List.mem_cons.mp h with rfl | h
        · exact .inr List.mem_cons_self
        · exact (ih h).imp_right (List.mem_cons_of_mem _)

theorem InOrder.insertField (h : InOrder fields) : InOrder (insertField key value fields) := by
  induction fields with
  | nil => exact List.pairwise_singleton _ _
  | cons f rest ih =>
    obtain ⟨k, v⟩ := f
    obtain ⟨hfirst, hrest⟩ := List.pairwise_cons.mp h
    rw [Json.insertField]
    split
    · rename_i hlt
      refine List.pairwise_cons.mpr ⟨fun g hg => ?_, h⟩
      rcases List.mem_cons.mp hg with rfl | hg
      · exact hlt
      · exact lt_trans hlt (hfirst g hg)
    · split
      · rename_i hk
        subst hk
        exact List.pairwise_cons.mpr ⟨hfirst, hrest⟩
      · rename_i hle hne
        refine List.pairwise_cons.mpr ⟨fun g hg => ?_, ih hrest⟩
        rcases mem_insertField hg with rfl | hg
        · exact lt_of_le_of_ne (not_lt.mp hle) (Ne.symm hne)
        · exact hfirst g hg

/-- The fields of `ofFields`, put one after the other into those that stand there already. -/
theorem lookup_insertFields :
    (fields.foldl (fun acc f => insertField f.1 f.2 acc) acc).lookup name =
      (fields.reverse.lookup name).or (acc.lookup name) := by
  induction fields generalizing acc with
  | nil => rfl
  | cons f fields ih =>
    rw [List.foldl_cons, ih, lookup_insertField, List.reverse_cons, List.lookup_append,
      Option.or_assoc]
    congr 1
    rw [lookup_field]
    split <;> rfl

theorem inOrder_insertFields (h : InOrder acc) :
    InOrder (fields.foldl (fun acc f => insertField f.1 f.2 acc) acc) := by
  induction fields generalizing acc with
  | nil => exact h
  | cons f fields ih => exact ih h.insertField

theorem lookup_of_mem {fields : List (String × α)} {f : String × α}
    (hn : (fields.map (·.1)).Nodup) (hf : f ∈ fields) : fields.lookup f.1 = some f.2 := by
  induction fields with
  | nil => cases hf
  | cons g rest ih =>
    obtain ⟨hg, hn⟩ := List.nodup_cons.mp hn
    rw [show g = (g.1, g.2) from rfl, lookup_field]
    rcases List.mem_cons.mp hf with rfl | hf
    · rw [if_pos rfl]
    · rw [if_neg, ih hn hf]
      intro heq
      have hmem : f.1 ∈ rest.map (·.1) := List.mem_map_of_mem hf
      rw [heq] at hmem
      exact hg hmem

theorem mem_of_lookup {fields : List (String × α)} {a : α} (h : fields.lookup name = some a) :
    (name, a) ∈ fields := by
  induction fields with
  | nil => cases h
  | cons f rest ih =>
    rw [show f = (f.1, f.2) from rfl, lookup_field] at h
    split at h
    · rename_i heq
      cases h
      rw [heq]
      exact List.mem_cons_self
    · exact List.mem_cons_of_mem _ (ih h)

/-- An object of fields with different keys has these fields and no others, in key order. -/
theorem ofFields_eq (hn : (fields.map (·.1)).Nodup) :
    ∃ all, ofFields fields = .object all ∧ InOrder all ∧ ∀ f, f ∈ all ↔ f ∈ fields := by
  have hn' : (fields.reverse.map (·.1)).Nodup := by
    rw [List.map_reverse]
    exact List.nodup_reverse.mpr hn
  have horder : InOrder (fields.foldl (fun acc f => insertField f.1 f.2 acc) []) :=
    inOrder_insertFields List.Pairwise.nil
  have hlookup : ∀ name, (fields.foldl (fun acc f => insertField f.1 f.2 acc) []).lookup name =
      (fields.reverse.lookup name).or none := fun _ => lookup_insertFields
  refine ⟨_, rfl, horder, fun f => ⟨fun hf => ?_, fun hf => ?_⟩⟩
  · have hall := lookup_of_mem horder.nodup hf
    rw [hlookup] at hall
    exact List.mem_reverse.mp (mem_of_lookup (by simpa using hall))
  · refine mem_of_lookup ?_
    rw [hlookup, lookup_of_mem hn' (List.mem_reverse.mpr hf)]
    rfl

/-- The value is an object that has these fields, and maybe others. -/
structure Has (value : Json) (fields : List (String × Json)) : Prop where
  object : ∃ all, value = .object all ∧ InOrder all
  field : ∀ f ∈ fields, value.field? f.1 = some f.2

theorem ofFields_has (hn : (fields.map (·.1)).Nodup) : (ofFields fields).Has fields := by
  obtain ⟨all, heq, horder, hall⟩ := ofFields_eq hn
  refine ⟨⟨all, heq, horder⟩, fun f hf => ?_⟩
  rw [heq]
  exact lookup_of_mem horder.nodup ((hall f).mpr hf)

end Json
end AccessGrants
