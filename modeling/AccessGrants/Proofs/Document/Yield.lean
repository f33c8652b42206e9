import AccessGrants.Document.Record

/-!
# AccessGrants.Proofs.Document.Yield

What holds of everything that a reader yields, whatever it reads.

* `Decoder.Yields`, `Record.Yields` — every value that is read has the property.
* `Record.Yields.seq`, `beside`     — what a record yields, field by field.
* `Record.yields_decode`            — so do the objects and the lists that it is read from.
-/

namespace AccessGrants

section

variable {x : Except ε α} {b : β}

theorem exists_of_bind_eq_ok {f : α → Except ε β} (h : x >>= f = .ok b) :
    ∃ a, x = .ok a ∧ f a = .ok b := by
  cases x with
  | error e => cases h
  | ok a => exact ⟨a, rfl, h⟩

theorem exists_of_map_eq_ok {f : α → β} (h : x.map f = .ok b) : ∃ a, x = .ok a ∧ f a = b := by
  cases x with
  | error e => cases h
  | ok a => exact ⟨a, rfl, Except.ok.inj h⟩

/-- A list or object that is not closed has no value. -/
theorem eq_of_closed {closed : Bool} {e : ε} {a : β}
    (h : (if closed then .ok a else .error e) = Except.ok b) : a = b := by
  cases closed with
  | false => cases h
  | true => exact Except.ok.inj h

end

variable {p : α → Prop}

namespace Decoder

/-- Every value that the decoder reads has the property. -/
def Yields (decode : Decoder α) (p : α → Prop) : Prop :=
  ∀ d a, decode d = .ok a → p a

theorem yields_integer (least greatest : Int) :
    (integer least greatest).Yields fun n => least ≤ n ∧ n ≤ greatest := by
  intro d n h
  cases d with
  | int m =>
    rw [integer] at h
    split at h
    · rename_i hm
      cases h
      exact hm
    · cases h
  | _ => cases h

theorem yields_nullable {decode : Decoder α} (h : decode.Yields p) :
    (nullable decode).Yields fun o => ∀ a, o = some a → p a := by
  intro d o ho a ha
  subst ha
  have hsome : ∀ d, (decode d).map some = .ok (some a) → p a := by
    intro d hd
    obtain ⟨b, hb, hba⟩ := exists_of_map_eq_ok hd
    exact h d a (Option.some.inj hba ▸ hb)
  cases d with
  | null => cases ho
  | _ => exact hsome _ ho

theorem yields_all {decode : Decoder α} (h : decode.Yields p) {items : List Draft} {as : List α}
    (has : all decode items = .ok as) : ∀ a ∈ as, p a := by
  induction items generalizing as with
  | nil =>
    cases has
    exact nofun
  | cons d items ih =>
    obtain ⟨a, ha, has⟩ := exists_of_bind_eq_ok has
    obtain ⟨rest, hrest, has⟩ := exists_of_bind_eq_ok has
    cases has
    exact List.forall_mem_cons.mpr ⟨h d a ha, ih hrest⟩

theorem yields_list {decode : Decoder α} (h : decode.Yields p) :
    (list decode).Yields fun as => ∀ a ∈ as, p a := by
  intro d as has
  cases d with
  | array items closed =>
    obtain ⟨values, hvalues, hclosed⟩ := exists_of_bind_eq_ok has
    exact eq_of_closed hclosed ▸ yields_all h hvalues
  | _ => cases has

end Decoder

namespace Record

/-- Every value that is built from fields has the property. -/
def Yields (r : Record α) (p : α → Prop) : Prop :=
  ∀ slots a, r.build slots = .ok a → p a

variable {name : String} {decode : Decoder α}

theorem yields_required (h : decode.Yields p) : (required name decode).Yields p := by
  intro slots a ha
  dsimp only [required] at ha
  split at ha
  · exact h _ a ha
  · cases ha

theorem yields_nullable (h : decode.Yields p) :
    (nullable name decode).Yields fun o => ∀ a, o = some a → p a := by
  intro slots o ho
  dsimp only [nullable] at ho
  split at ho
  · exact Decoder.yields_nullable h _ o ho
  · cases ho
    exact nofun

theorem yields_defaulted {value : α} (h : decode.Yields p) (hvalue : p value) :
    (defaulted name decode value).Yields p := by
  intro slots a ha
  dsimp only [defaulted] at ha
  split at ha
  · exact h _ a ha
  · cases ha
    exact hvalue

theorem yields_map {r : Record α} {f : α → β} {q : β → Prop} (hq : ∀ a, q (f a)) :
    (f <$> r).Yields q := by
  intro slots b hb
  obtain ⟨a, -, rfl⟩ := exists_of_map_eq_ok hb
  exact hq a

/-- One more field, of which something is known. -/
theorem Yields.seq {r : Record α} {s : Record (α → β)} {q : β → Prop}
    (hs : s.Yields fun f => ∀ a, p a → q (f a)) (h : r.Yields p) : (s <*> r).Yields q := by
  intro slots b hb
  obtain ⟨f, hf, hb⟩ := exists_of_bind_eq_ok hb
  obtain ⟨a, ha, hb⟩ := exists_of_bind_eq_ok hb
  cases hb
  exact hs slots f hf a (h slots a ha)

theorem Yields.beside {r : Record α} {s : Record (α → β)} {q : β → Prop}
    (hs : s.Yields fun f => ∀ a, q (f a)) : (s <*> r).Yields q :=
  seq (fun slots f hf a (_ : True) => hs slots f hf a) fun _ _ _ => trivial

theorem yields_decode {r : Record α} (h : r.Yields p) : r.decode.Yields p := by
  intro d a ha
  cases d with
  | object fields closed =>
    obtain ⟨-, -, hbuild⟩ := exists_of_bind_eq_ok ha
    cases closed with
    | false => cases hbuild
    | true => exact h _ a hbuild
  | array items closed =>
    obtain ⟨-, -, hbuild⟩ := exists_of_bind_eq_ok ha
    exact h _ a hbuild
  | _ => cases ha

end Record
end AccessGrants
