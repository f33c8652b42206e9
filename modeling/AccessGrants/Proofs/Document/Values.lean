import AccessGrants.Proofs.Document.Reading
import AccessGrants.Proofs.Document.Yield

/-!
# AccessGrants.Proofs.Document.Values

Values that are kept as they are: those in which the fields of every object stand in key order, each
key once.

* `Json.Ordered`      — this order, throughout the value.
* `ofFields_of_inOrder` — fields in order make the object with just these fields.
* `toJson_ofJson`     — such a value is read as itself.
* `ordered_of_toJson` — every value that is read is such a value.
-/

namespace AccessGrants

namespace Json

mutual

/-- The fields of every object in the value stand in key order, each key once. -/
def Ordered : Json → Prop
  | array items => OrderedItems items
  | object fields => InOrder fields ∧ OrderedFields fields
  | null | bool _ | int _ | float _ | string _ => True

def OrderedItems : List Json → Prop
  | [] => True
  | a :: as => Ordered a ∧ OrderedItems as

def OrderedFields : List (String × Json) → Prop
  | [] => True
  | (_, a) :: as => Ordered a ∧ OrderedFields as

end

theorem orderedFields_iff {fields : List (String × Json)} :
    OrderedFields fields ↔ ∀ f ∈ fields, f.2.Ordered := by
  induction fields with
  | nil => simp [OrderedFields]
  | cons f fields ih => simp [OrderedFields, ih]

variable {key : String} {value : Json} {fields acc : List (String × Json)}

/-- A key after all others comes last. -/
theorem insertField_of_lt (h : ∀ f ∈ fields, f.1 < key) :
    insertField key value fields = fields ++ [(key, value)] := by
  induction fields with
  | nil => rfl
  | cons f rest ih =>
    have hf := h f List.mem_cons_self
    rw [show f = (f.1, f.2) from rfl, insertField, if_neg (not_lt_of_gt hf), if_neg (ne_of_gt hf),
      ih fun g hg => h g (List.mem_cons_of_mem _ hg)]
    rfl

/-- Fields in order make the object with just these fields. -/
theorem ofFields_of_inOrder (h : InOrder fields) : ofFields fields = .object fields := by
  have hinsert : ∀ rest acc : List (String × Json), InOrder (acc ++ rest) →
      rest.foldl (fun acc f => insertField f.1 f.2 acc) acc = acc ++ rest := by
    intro rest
    induction rest with
    | nil => exact fun acc _ => (List.append_nil acc).symm
    | cons f rest ih =>
      intro acc hacc
      have hlast := (List.pairwise_append.mp hacc).2.2
      have hf : insertField f.1 f.2 acc = acc ++ [f] :=
        insertField_of_lt fun g hg => hlast g hg f List.mem_cons_self
      rw [List.append_cons] at hacc ⊢
      rw [List.foldl_cons, hf]
      exact ih _ hacc
  rw [ofFields, hinsert fields [] h, List.nil_append]

theorem mem_insertFields {f : String × Json}
    (h : f ∈ fields.foldl (fun acc f => insertField f.1 f.2 acc) acc) : f ∈ fields ∨ f ∈ acc := by
  induction fields generalizing acc with
  | nil => exact .inr h
  | cons g fields ih =>
    rcases ih h with hmem | hmem
    · exact .inl (List.mem_cons_of_mem _ hmem)
    · rcases mem_insertField hmem with rfl | hmem
      · exact .inl List.mem_cons_self
      · exact .inr hmem

theorem ordered_ofFields (h : OrderedFields fields) : (ofFields fields).Ordered := by
  refine ⟨inOrder_insertFields List.Pairwise.nil, orderedFields_iff.mpr fun f hf => ?_⟩
  rcases mem_insertFields hf with hf | hf
  · exact orderedFields_iff.mp h f hf
  · cases hf

end Json

namespace Draft

open Json (Ordered OrderedItems OrderedFields)

mutual

theorem toJson_ofJson : ∀ {v : Json}, v.Ordered → (ofJson v).toJson = .ok v
  | .null, _ | .bool _, _ | .int _, _ | .float _, _ | .string _, _ => by simp [ofJson, toJson]
  | .array items, h => by
    rw [ofJson, toJson, toJsonItems_ofJson h]
    rfl
  | .object fields, h => by
    rw [ofJson, toJson, toJsonFields_ofJson h.2]
    exact congrArg Except.ok (Json.ofFields_of_inOrder h.1)

theorem toJsonItems_ofJson : ∀ {items : List Json}, OrderedItems items →
    toJsonItems (ofJsonItems items) = .ok items
  | [], _ => rfl
  | v :: items, h => by
    rw [ofJsonItems, toJsonItems, toJson_ofJson h.1, toJsonItems_ofJson h.2]
    rfl

theorem toJsonFields_ofJson : ∀ {fields : List (String × Json)}, OrderedFields fields →
    toJsonFields (ofJsonFields fields) = .ok fields
  | [], _ => rfl
  | (k, v) :: fields, h => by
    rw [ofJsonFields, toJsonFields, toJson_ofJson h.1, toJsonFields_ofJson h.2]
    rfl

end

mutual

theorem ordered_of_toJson : ∀ {d : Draft} {v : Json}, d.toJson = .ok v → v.Ordered
  | null, _, h | bool _, _, h | int _, _, h | float _, _, h | string _, _, h => by
    cases h
    trivial
  | unreadable, _, h | broken, _, h => nomatch h
  | array items closed, v, h => by
    rw [toJson] at h
    obtain ⟨values, hvalues, h⟩ := exists_of_bind_eq_ok h
    exact eq_of_closed h ▸ ordered_of_toJsonItems hvalues
  | object fields closed, v, h => by
    rw [toJson] at h
    obtain ⟨values, hvalues, h⟩ := exists_of_bind_eq_ok h
    exact eq_of_closed h ▸ Json.ordered_ofFields (ordered_of_toJsonFields hvalues)

theorem ordered_of_toJsonItems : ∀ {items : List Draft} {values : List Json},
    toJsonItems items = .ok values → OrderedItems values
  | [], _, h => by
    cases h
    trivial
  | d :: items, _, h => by
    rw [toJsonItems] at h
    obtain ⟨v, hv, h⟩ := exists_of_bind_eq_ok h
    obtain ⟨rest, hrest, h⟩ := exists_of_bind_eq_ok h
    cases h
    exact ⟨ordered_of_toJson hv, ordered_of_toJsonItems hrest⟩

theorem ordered_of_toJsonFields : ∀ {fields : List (String × Draft)} {values : List (String × Json)},
    toJsonFields fields = .ok values → OrderedFields values
  | [], _, h => by
    cases h
    trivial
  | (k, d) :: fields, _, h => by
    rw [toJsonFields] at h
    obtain ⟨v, hv, h⟩ := exists_of_bind_eq_ok h
    obtain ⟨rest, hrest, h⟩ := exists_of_bind_eq_ok h
    cases h
    exact ⟨ordered_of_toJson hv, ordered_of_toJsonFields hrest⟩

end

end Draft

namespace Decoder

theorem takes_json {v : Json} (h : v.Ordered) : json.Takes v v :=
  Draft.toJson_ofJson h

theorem yields_json : json.Yields Json.Ordered :=
  fun _ _ => Draft.ordered_of_toJson

end Decoder

end AccessGrants
