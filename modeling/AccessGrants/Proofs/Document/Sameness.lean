import AccessGrants.Proofs.Document.Values

/-!
# AccessGrants.Proofs.Document.Sameness

When two documents say the same.

* `Draft.SameValue`      — item by item and key by key. The order of the keys does not count, the order
                           of the items and the kind of the numbers do.
* `equivalent_array`, `equivalent_object` — how values are compared, from one level to the next.
* `Draft.Level`          — a document and its value, down to the next level.
* `Draft.equivalent_iff` — the comparison of two values tells whether the documents say the same.
-/

namespace AccessGrants

namespace Json

theorem unsignedZerosItems_eq (items : List Json) :
    unsignedZerosItems items = items.map unsignedZeros := by
  induction items with
  | nil => rfl
  | cons a items ih => rw [unsignedZerosItems, ih, List.map_cons]

theorem unsignedZerosFields_eq (fields : List (String × Json)) :
    unsignedZerosFields fields = fields.map fun f => (f.1, f.2.unsignedZeros) := by
  induction fields with
  | nil => rfl
  | cons f fields ih => rw [unsignedZerosFields, ih, List.map_cons]

theorem equivalent_array {as bs : List Json} :
    (array as).Equivalent (array bs) ↔
      ∀ i : Nat, as[i]?.map unsignedZeros = bs[i]?.map unsignedZeros := by
  rw [Equivalent, unsignedZeros, unsignedZeros, array.injEq, unsignedZerosItems_eq,
    unsignedZerosItems_eq, List.ext_getElem?_iff]
  simp only [List.getElem?_map]

/-- Fields in order are told by what is found under every key. -/
theorem InOrder.ext {as bs : List (String × Json)} (ha : InOrder as) (hb : InOrder bs)
    (h : ∀ k, as.lookup k = bs.lookup k) : as = bs := by
  have hmem : ∀ f, f ∈ as ↔ f ∈ bs := fun f =>
    ⟨fun hf => mem_of_lookup ((h f.1).symm.trans (lookup_of_mem ha.nodup hf)),
      fun hf => mem_of_lookup ((h f.1).trans (lookup_of_mem hb.nodup hf))⟩
  have hperm : as.Perm bs :=
    (List.perm_ext_iff_of_nodup (List.Nodup.of_map _ ha.nodup) (List.Nodup.of_map _ hb.nodup)).mpr hmem
  exact hperm.eq_of_pairwise (fun f g _ _ hfg hgf => absurd hfg (lt_asymm hgf)) ha hb

theorem equivalent_object {as bs : List (String × Json)} (ha : InOrder as) (hb : InOrder bs) :
    (object as).Equivalent (object bs) ↔
      ∀ k, (as.lookup k).map unsignedZeros = (bs.lookup k).map unsignedZeros := by
  have horder {fields : List (String × Json)} (h : InOrder fields) :
      InOrder (fields.map fun f => (f.1, f.2.unsignedZeros)) := List.pairwise_map.mpr h
  rw [Equivalent, unsignedZeros, unsignedZeros, object.injEq, unsignedZerosFields_eq,
    unsignedZerosFields_eq]
  simp only [← lookup_map_snd]
  exact ⟨fun h k => by rw [h], (horder ha).ext (horder hb)⟩

end Json

namespace Draft

/-- The last field with this key, which is the one that counts. -/
def lastField (fields : List (String × Draft)) (key : String) : Option Draft :=
  fields.reverse.lookup key

/-- Both documents say the same. A zero has no sign, and a whole number is no float. -/
inductive SameValue : Draft → Draft → Prop where
  | null : SameValue null null
  | bool (b : Bool) : SameValue (bool b) (bool b)
  | int (n : Int) : SameValue (int n) (int n)
  | float {x y : Binary64} (h : x.unsignedZero = y.unsignedZero) : SameValue (float x) (float y)
  | string (s : String) : SameValue (string s) (string s)
  | array {as bs : List Draft} {closed closed' : Bool}
    (h : ∀ i : Nat, Option.Rel SameValue as[i]? bs[i]?) :
    SameValue (array as closed) (array bs closed')
  | object {as bs : List (String × Draft)} {closed closed' : Bool}
    (h : ∀ key, Option.Rel SameValue (lastField as key) (lastField bs key)) :
    SameValue (object as closed) (object bs closed')

/-- The value of a document. -/
def Reads (d : Draft) (v : Json) : Prop :=
  d.toJson = .ok v

theorem toJsonItems_reads {items : List Draft} {values : List Json}
    (h : toJsonItems items = .ok values) (i : Nat) : Option.Rel Reads items[i]? values[i]? := by
  induction items generalizing values i with
  | nil =>
    cases h
    exact .none
  | cons d items ih =>
    rw [toJsonItems] at h
    obtain ⟨value, hvalue, h⟩ := exists_of_bind_eq_ok h
    obtain ⟨rest, hrest, h⟩ := exists_of_bind_eq_ok h
    cases h
    cases i with
    | zero => exact .some hvalue
    | succ i => exact ih hrest i

theorem lookup_forall₂ {R : α → β → Prop} {as : List (String × α)} {bs : List (String × β)}
    (h : List.Forall₂ (fun a b => a.1 = b.1 ∧ R a.2 b.2) as bs) (key : String) :
    Option.Rel R (as.lookup key) (bs.lookup key) := by
  induction h with
  | nil => exact .none
  | @cons a b as bs hab _ ih =>
    obtain ⟨k, x⟩ := a
    obtain ⟨k', y⟩ := b
    obtain ⟨rfl, hr⟩ := hab
    rw [Json.lookup_field, Json.lookup_field]
    split
    · exact .some hr
    · exact ih

theorem toJsonFields_reads {fields : List (String × Draft)} {values : List (String × Json)}
    (h : toJsonFields fields = .ok values) :
    List.Forall₂ (fun f g => f.1 = g.1 ∧ f.2.Reads g.2) fields values := by
  induction fields generalizing values with
  | nil =>
    cases h
    exact .nil
  | cons f fields ih =>
    rw [show f = (f.1, f.2) from rfl, toJsonFields] at h
    obtain ⟨value, hvalue, h⟩ := exists_of_bind_eq_ok h
    obtain ⟨rest, hrest, h⟩ := exists_of_bind_eq_ok h
    cases h
    exact .cons ⟨rfl, hvalue⟩ (ih hrest)

/-- A document and its value, down to the next level. -/
inductive Level : Draft → Json → Prop where
  | null : Level null .null
  | bool (b : Bool) : Level (bool b) (.bool b)
  | int (n : Int) : Level (int n) (.int n)
  | float (x : Binary64) : Level (float x) (.float x)
  | string (s : String) : Level (string s) (.string s)
  | array {items : List Draft} {values : List Json} (closed : Bool)
    (h : ∀ i : Nat, Option.Rel Reads items[i]? values[i]?) :
    Level (array items closed) (.array values)
  | object {fields : List (String × Draft)} {all : List (String × Json)} (closed : Bool)
    (horder : Json.InOrder all) (h : ∀ key, Option.Rel Reads (lastField fields key) (all.lookup key)) :
    Level (object fields closed) (.object all)

theorem Reads.level {d : Draft} {v : Json} (h : d.Reads v) : Level d v := by
  cases d with
  | null => cases h; exact .null
  | bool b => cases h; exact .bool b
  | int n => cases h; exact .int n
  | float x => cases h; exact .float x
  | string s => cases h; exact .string s
  | array items closed =>
    rw [Reads, toJson] at h
    obtain ⟨values, hvalues, h⟩ := exists_of_bind_eq_ok h
    exact eq_of_closed h ▸ .array closed (toJsonItems_reads hvalues)
  | object fields closed =>
    rw [Reads, toJson] at h
    obtain ⟨values, hvalues, h⟩ := exists_of_bind_eq_ok h
    refine eq_of_closed h ▸ .object closed (Json.inOrder_insertFields List.Pairwise.nil) fun key => ?_
    rw [Json.lookup_insertFields, List.lookup_nil, Option.or_none]
    exact lookup_forall₂ (List.rel_reverse (toJsonFields_reads hvalues)) key
  | unreadable => cases h
  | broken => cases h

theorem rel_iff {x y : Option Draft} {v w : Option Json} (hx : Option.Rel Reads x v)
    (hy : Option.Rel Reads y w)
    (h : ∀ a v, x = some a → a.Reads v → ∀ b w, b.Reads w → (v.Equivalent w ↔ a.SameValue b)) :
    v.map Json.unsignedZeros = w.map Json.unsignedZeros ↔ Option.Rel SameValue x y := by
  cases hx with
  | none =>
    cases hy with
    | none => exact ⟨fun _ => .none, fun _ => rfl⟩
    | some hy => exact ⟨nofun, nofun⟩
  | some hx =>
    cases hy with
    | none => exact ⟨nofun, nofun⟩
    | some hy =>
      have hiff := h _ _ rfl hx _ _ hy
      constructor
      · intro heq
        exact .some (hiff.mp (Option.some.inj heq))
      · intro hsame
        cases hsame with
        | some hsame => exact congrArg some (hiff.mpr hsame)

theorem sizeOf_item {items : List Draft} {i : Nat} {d : Draft} (h : items[i]? = some d)
    (closed : Bool) : sizeOf d < sizeOf (array items closed) := by
  have hlt := List.sizeOf_lt_of_mem (List.mem_of_getElem? h)
  simp only [array.sizeOf_spec]
  omega

theorem sizeOf_lastField {fields : List (String × Draft)} {key : String} {d : Draft}
    (h : lastField fields key = some d) (closed : Bool) :
    sizeOf d < sizeOf (object fields closed) := by
  have hlt := List.sizeOf_lt_of_mem (List.mem_reverse.mp (Json.mem_of_lookup h))
  simp only [object.sizeOf_spec, Prod.mk.sizeOf_spec] at hlt ⊢
  omega

/-- The values of two documents are equivalent when the documents say the same, and only then. -/
theorem equivalent_iff {a b : Draft} {v w : Json} (ha : a.Reads v) (hb : b.Reads w) :
    v.Equivalent w ↔ a.SameValue b := by
  cases ha.level with
  | null =>
    cases hb.level with
    | null => exact ⟨fun _ => .null, fun _ => rfl⟩
    | _ => exact ⟨nofun, nofun⟩
  | bool x =>
    cases hb.level with
    | bool y => exact ⟨fun h => by cases h; exact .bool x, fun h => by cases h; rfl⟩
    | _ => exact ⟨nofun, nofun⟩
  | int n =>
    cases hb.level with
    | int m => exact ⟨fun h => by cases h; exact .int n, fun h => by cases h; rfl⟩
    | _ => exact ⟨nofun, nofun⟩
  | float x =>
    cases hb.level with
    | float y =>
      exact ⟨fun h => .float (Json.float.inj h),
        fun h => by cases h with | float h => exact congrArg Json.float h⟩
    | _ => exact ⟨nofun, nofun⟩
  | string s =>
    cases hb.level with
    | string t => exact ⟨fun h => by cases h; exact .string s, fun h => by cases h; rfl⟩
    | _ => exact ⟨nofun, nofun⟩
  | @array as vs closed has =>
    cases hb.level with
    | @array bs ws closed' hbs =>
      have hplace (i : Nat) := rel_iff (has i) (hbs i) fun a v hmem ha b w hb =>
        have := sizeOf_item hmem closed
        equivalent_iff ha hb
      rw [Json.equivalent_array, forall_congr' hplace]
      exact ⟨.array, fun h => by cases h with | array h => exact h⟩
    | _ => exact ⟨nofun, nofun⟩
  | @object as vs closed horder has =>
    cases hb.level with
    | @object bs ws closed' horder' hbs =>
      have hplace (key : String) := rel_iff (has key) (hbs key) fun a v hmem ha b w hb =>
        have := sizeOf_lastField hmem closed
        equivalent_iff ha hb
      rw [Json.equivalent_object horder horder', forall_congr' hplace]
      exact ⟨.object, fun h => by cases h with | object h => exact h⟩
    | _ => exact ⟨nofun, nofun⟩
termination_by sizeOf a

end Draft

end AccessGrants
