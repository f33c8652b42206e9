import AccessGrants.Document.Record
import AccessGrants.Proofs.Document.Fields

/-!
# AccessGrants.Proofs.Document.Reading

What a record reads from an object, put together from what its fields read.

* `Record.Reads` — with these fields the record has this value, and no field is refused.
* `Reads.takes`  — a record reads its value from every object with such fields, whatever else it
                   has.
-/

namespace AccessGrants

namespace Draft

theorem ofJsonFields_eq (fields : List (String × Json)) :
    ofJsonFields fields = fields.map fun f => (f.1, ofJson f.2) := by
  induction fields with
  | nil => rfl
  | cons f fields ih => rw [ofJsonFields, ih, List.map_cons]

theorem lookup_ofJsonFields {fields : List (String × Json)} {name : String} :
    (ofJsonFields fields).lookup name = (fields.lookup name).map ofJson := by
  rw [ofJsonFields_eq, Json.lookup_map_snd]

mutual

/-- The draft of a value is well formed throughout. -/
theorem skippable_ofJson : ∀ a : Json, (ofJson a).skippable = true
  | .null | .bool _ | .int _ | .float _ | .string _ => by simp [ofJson, skippable]
  | .array items => by simp [ofJson, skippable, skippable_ofJsonItems items]
  | .object fields => by simp [ofJson, skippable, skippable_ofJsonFields fields]

theorem skippable_ofJsonItems : ∀ items : List Json, skippableItems (ofJsonItems items) = true
  | [] => by simp [ofJsonItems, skippableItems]
  | a :: items => by
    simp [ofJsonItems, skippableItems, skippable_ofJson a, skippable_ofJsonItems items]

theorem skippable_ofJsonFields :
    ∀ fields : List (String × Json), skippableFields (ofJsonFields fields) = true
  | [] => by simp [ofJsonFields, skippableFields]
  | (_, a) :: fields => by
    simp [ofJsonFields, skippableFields, skippable_ofJson a, skippable_ofJsonFields fields]

end

end Draft

open Draft (ofJson)

namespace Decoder

/-- The decoder reads the value as this. -/
def Takes (decode : Decoder α) (value : Json) (a : α) : Prop :=
  decode (ofJson value) = .ok a

theorem takes_text (s : String) : text.Takes (.string s) s := rfl

theorem takes_integer {least greatest n : Int} (h : least ≤ n ∧ n ≤ greatest) :
    (integer least greatest).Takes (.int n) n := by
  rw [Takes, ofJson, integer, if_pos h]

theorem nullable_eq {decode : Decoder α} {v : Json} (hv : v ≠ .null) :
    nullable decode (ofJson v) = (decode (ofJson v)).map some := by
  cases v <;> first | exact absurd rfl hv | rfl

/-- An absent value is written as null, so no value may be. -/
theorem takes_nullable {decode : Decoder α} {write : α → Json} {a : Option α} {b : α → α}
    (h : ∀ x, a = some x → decode.Takes (write x) (b x)) (hn : ∀ x, write x ≠ .null) :
    (nullable decode).Takes (Json.ofOption write a) (a.map b) := by
  cases a with
  | none => rfl
  | some x =>
    have hx : decode (ofJson (write x)) = .ok (b x) := h x rfl
    rw [Takes, Json.ofOption, nullable_eq (hn x), hx]
    rfl

theorem takes_nullable_self {decode : Decoder α} {write : α → Json} {a : Option α}
    (h : ∀ x, a = some x → decode.Takes (write x) x) (hn : ∀ x, write x ≠ .null) :
    (nullable decode).Takes (Json.ofOption write a) a := by
  have htakes := takes_nullable (b := fun x => x) h hn
  rwa [Option.map_id'] at htakes

theorem takes_all {decode : Decoder α} {write : β → Json} {b : β → α} {items : List β}
    (h : ∀ x ∈ items, decode.Takes (write x) (b x)) :
    all decode (Draft.ofJsonItems (items.map write)) = .ok (items.map b) := by
  induction items with
  | nil => rfl
  | cons x items ih =>
    have hx : decode (ofJson (write x)) = .ok (b x) := h x List.mem_cons_self
    rw [List.map_cons, Draft.ofJsonItems, all, hx, ih fun y hy => h y (List.mem_cons_of_mem _ hy)]
    rfl

theorem takes_list {decode : Decoder α} {write : β → Json} {b : β → α} {items : List β}
    (h : ∀ x ∈ items, decode.Takes (write x) (b x)) :
    (list decode).Takes (.array (items.map write)) (items.map b) := by
  show list decode (.array (Draft.ofJsonItems (items.map write)) true) = _
  rw [list, takes_all h]
  rfl

theorem takes_list_self {decode : Decoder α} {write : α → Json} {items : List α}
    (h : ∀ x ∈ items, decode.Takes (write x) x) :
    (list decode).Takes (.array (items.map write)) items := by
  have htakes := takes_list (b := fun x => x) h
  rwa [List.map_id'] at htakes

end Decoder

namespace Record

/-- With these fields the record has this value, and takes what stands in its own ones. -/
structure Reads (r : Record α) (slots : String → Option Json) (a : α) : Prop where
  check : ∀ rule ∈ r.rules, ∀ v, slots rule.name = some v → rule.check (ofJson v) = .ok ()
  build : r.build (fun name => (slots name).map ofJson) = .ok a

variable {slots : String → Option Json} {name : String} {decode : Decoder α} {v : Json} {a : α}

theorem ruleOf_takes {absence : Absence} (hs : slots name = some v) (hv : decode.Takes v a) :
    ∀ rule ∈ [ruleOf name decode absence], ∀ w, slots rule.name = some w →
      rule.check (ofJson w) = .ok () := by
  intro rule hrule w hw
  obtain rfl := List.mem_singleton.mp hrule
  have hvw : some v = some w := hs.symm.trans hw
  cases hvw
  show (decode (ofJson v)).map (fun _ => ()) = .ok ()
  rw [hv]
  rfl

theorem reads_required (hs : slots name = some v) (hv : decode.Takes v a) :
    (required name decode).Reads slots a where
  check := ruleOf_takes hs hv
  build := by
    simp only [required, hs, Option.map_some]
    exact hv

theorem reads_nullable {a : Option α} (hs : slots name = some v)
    (hv : (Decoder.nullable decode).Takes v a) : (nullable name decode).Reads slots a where
  check := ruleOf_takes hs hv
  build := by
    simp only [nullable, hs, Option.map_some]
    exact hv

theorem reads_defaulted {value : α} (hs : slots name = some v) (hv : decode.Takes v a) :
    (defaulted name decode value).Reads slots a where
  check := ruleOf_takes hs hv
  build := by
    simp only [defaulted, hs, Option.map_some]
    exact hv

theorem Reads.map {r : Record α} (h : r.Reads slots a) (f : α → β) :
    (f <$> r).Reads slots (f a) where
  check := h.check
  build := by
    show (r.build _).map f = _
    rw [h.build]
    rfl

theorem Reads.seq {r : Record α} {s : Record (α → β)} {f : α → β} (hs : s.Reads slots f)
    (h : r.Reads slots a) : (s <*> r).Reads slots (f a) where
  check rule hrule := by
    rcases List.mem_append.mp hrule with hrule | hrule
    · exact hs.check rule hrule
    · exact h.check rule hrule
  build := by
    show (do let g ← s.build _; let a ← r.build _; return g a) = _
    rw [hs.build, h.build]
    rfl

theorem walk_ofJson {rules : List FieldRule} {fields : List (String × Json)} {seen : List String}
    (hn : (fields.map (·.1)).Nodup) (hseen : ∀ f ∈ fields, f.1 ∉ seen)
    (hc : ∀ f ∈ fields, ∀ rule ∈ rules, rule.name = f.1 → rule.check (ofJson f.2) = .ok ()) :
    walk rules seen (Draft.ofJsonFields fields) = .ok () := by
  induction fields generalizing seen with
  | nil => rfl
  | cons f rest ih =>
    obtain ⟨key, value⟩ := f
    obtain ⟨hkey, hn⟩ := List.nodup_cons.mp hn
    have hrest := fun g hg => hc g (List.mem_cons_of_mem _ hg)
    rw [Draft.ofJsonFields, walk]
    split
    · rename_i rule hfind
      rw [if_neg (hseen _ List.mem_cons_self)]
      have hname : rule.name = key := by simpa using List.find?_some hfind
      rw [hc _ List.mem_cons_self rule (List.mem_of_find?_eq_some hfind) hname]
      refine ih hn (fun g hg hmem => ?_) hrest
      rcases List.mem_cons.mp hmem with heq | hmem
      · have hin : g.1 ∈ rest.map (·.1) := List.mem_map_of_mem hg
        rw [heq] at hin
        exact hkey hin
      · exact hseen g (List.mem_cons_of_mem _ hg) hmem
    · rw [if_pos (Draft.skippable_ofJson value)]
      exact ih hn (fun g hg => hseen g (List.mem_cons_of_mem _ hg)) hrest

/-- A record reads its value from every object with such fields. -/
theorem Reads.takes {r : Record α} {fields : List (String × Json)} (hn : Json.InOrder fields)
    (h : r.Reads (fun name => fields.lookup name) a) : r.decode.Takes (.object fields) a := by
  have hwalk : walk r.rules [] (Draft.ofJsonFields fields) = .ok () := by
    refine walk_ofJson hn.nodup (by simp) fun f hf rule hrule hname => ?_
    exact h.check rule hrule f.2 (by rw [hname]; exact Json.lookup_of_mem hn.nodup hf)
  show r.decode (.object (Draft.ofJsonFields fields) true) = .ok a
  rw [Record.decode, hwalk]
  have hslots : (fun key => (Draft.ofJsonFields fields).lookup key) =
      fun key => (fields.lookup key).map ofJson := funext fun _ => Draft.lookup_ofJsonFields
  simp only [hslots, if_true]
  exact h.build

/-- A record reads its value from every object that has the fields it is read from. -/
theorem takes_of_has {r : Record α} {doc : Json} {fields : List (String × Json)}
    (h : doc.Has fields)
    (hr : ∀ slots, (∀ f ∈ fields, slots f.1 = some f.2) → r.Reads slots a) :
    r.decode.Takes doc a := by
  obtain ⟨⟨all, rfl, horder⟩, hfield⟩ := h
  exact (hr _ hfield).takes horder

end Record

end AccessGrants
