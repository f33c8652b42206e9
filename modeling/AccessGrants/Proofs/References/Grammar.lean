import AccessGrants.Proofs.Text.Split
import AccessGrants.Provider
import Mathlib.Data.List.Basic

/-!
# AccessGrants.Proofs.References.Grammar

The two written references of a provider, each told by the separators in a text.

* `IsReference`, `IsSchemaReference`               — the texts of a form, by counting separators.
* `Provider.Referable`, `Provider.SchemaReferable` — the providers that a form can carry.
* `parse_eq_ok_iff`, `parseSchemaRef_eq_ok_iff`    — what is read is what would be written.
* `WrittenForm`                                    — a reader and a writer that undo each other.
* `references_written`                             — both references are such forms.
-/

namespace AccessGrants

/-- One `@` in the whole text, and one `/` before it. -/
def IsReference (text : String) : Prop :=
  text.toList.count '@' = 1 ∧ (text.toList.takeWhile (· ≠ '@')).count '/' = 1

/-- Two `/` in the whole text. -/
def IsSchemaReference (text : String) : Prop :=
  text.toList.count '/' = 2

namespace Provider

variable {p : Provider} {text : String} {e : InvalidReference}

/-- The providers whose parts stay apart in a canonical reference. The version comes last, so a `/`
in it does no harm. -/
structure Referable (p : Provider) : Prop where
  publisher : '/' ∉ p.publisher.toList ∧ '@' ∉ p.publisher.toList
  name : '/' ∉ p.name.toList ∧ '@' ∉ p.name.toList
  version : '@' ∉ p.version.toList

/-- The providers whose parts stay apart in a schema target reference. -/
structure SchemaReferable (p : Provider) : Prop where
  publisher : '/' ∉ p.publisher.toList
  name : '/' ∉ p.name.toList
  version : '/' ∉ p.version.toList

theorem toList_render (p : Provider) :
    p.render.toList = (p.publisher.toList ++ '/' :: p.name.toList) ++ '@' :: p.version.toList := by
  simp [render]

theorem toList_schemaRef (p : Provider) :
    p.schemaRef.toList = p.publisher.toList ++ '/' :: (p.name.toList ++ '/' :: p.version.toList) := by
  simp [schemaRef]

theorem split_render (hpublisher : '@' ∉ p.publisher.toList) (hname : '@' ∉ p.name.toList)
    (hversion : '@' ∉ p.version.toList) : Text.split '@' p.render.toList =
      [p.publisher.toList ++ '/' :: p.name.toList, p.version.toList] := by
  have hpath : '@' ∉ p.publisher.toList ++ '/' :: p.name.toList := by
    simp [hpublisher, hname]
  exact Text.split_eq_cons_iff.mpr ⟨p.version.toList, p.toList_render, hpath,
    Text.split_eq_single_iff.mpr ⟨rfl, hversion⟩⟩

theorem Referable.split_render (hp : p.Referable) : Text.split '@' p.render.toList =
    [p.publisher.toList ++ '/' :: p.name.toList, p.version.toList] :=
  Provider.split_render hp.publisher.2 hp.name.2 hp.version

theorem Referable.split_path (hp : p.Referable) :
    Text.split '/' (p.publisher.toList ++ '/' :: p.name.toList) =
      [p.publisher.toList, p.name.toList] :=
  Text.split_eq_cons_iff.mpr ⟨p.name.toList, rfl, hp.publisher.1,
    Text.split_eq_single_iff.mpr ⟨rfl, hp.name.1⟩⟩

theorem SchemaReferable.split_schemaRef (hp : p.SchemaReferable) :
    Text.split '/' p.schemaRef.toList =
      [p.publisher.toList, p.name.toList, p.version.toList] :=
  Text.split_eq_cons_iff.mpr ⟨_, p.toList_schemaRef, hp.publisher,
    Text.split_eq_cons_iff.mpr ⟨_, rfl, hp.name,
      Text.split_eq_single_iff.mpr ⟨rfl, hp.version⟩⟩⟩

/-! ## What is read -/

theorem parse_eq_ok_iff : parse text = .ok p ↔ p.Referable ∧ p.render = text := by
  constructor
  · intro h
    unfold parse at h
    split at h
    · next path version hat =>
      split at h
      · next publisher name hslash =>
        obtain ⟨_, htext, hpath, hlast⟩ := Text.split_eq_cons_iff.mp hat
        obtain ⟨rfl, hversion⟩ := Text.split_eq_single_iff.mp hlast
        obtain ⟨_, rfl, hpublisher, hlast⟩ := Text.split_eq_cons_iff.mp hslash
        obtain ⟨rfl, hname⟩ := Text.split_eq_single_iff.mp hlast
        cases h
        simp only [List.mem_append, List.mem_cons, not_or] at hpath
        refine ⟨⟨?_, ?_, ?_⟩, ?_⟩
        · simpa using ⟨hpublisher, hpath.1⟩
        · simpa using ⟨hname, hpath.2.2⟩
        · simpa using hversion
        · rw [← String.toList_inj, toList_render, htext]
          simp
      · cases h
    · cases h
  · rintro ⟨hp, rfl⟩
    simp only [parse, hp.split_render, hp.split_path, String.ofList_toList]

theorem parseSchemaRef_eq_ok_iff :
    parseSchemaRef text = .ok p ↔ p.SchemaReferable ∧ p.schemaRef = text := by
  constructor
  · intro h
    unfold parseSchemaRef at h
    split at h
    · next publisher name version hslash =>
      obtain ⟨_, htext, hpublisher, hrest⟩ := Text.split_eq_cons_iff.mp hslash
      obtain ⟨_, rfl, hname, hlast⟩ := Text.split_eq_cons_iff.mp hrest
      obtain ⟨rfl, hversion⟩ := Text.split_eq_single_iff.mp hlast
      cases h
      refine ⟨⟨?_, ?_, ?_⟩, ?_⟩
      · simpa using hpublisher
      · simpa using hname
      · simpa using hversion
      · rw [← String.toList_inj, toList_schemaRef, htext]
        simp
    · cases h
  · rintro ⟨hp, rfl⟩
    simp only [parseSchemaRef, hp.split_schemaRef, String.ofList_toList]

theorem parse_error (h : parse text = .error e) : e = ⟨text⟩ := by
  unfold parse at h
  split at h
  · split at h
    · cases h
    · cases h
      rfl
  · cases h
    rfl

theorem parseSchemaRef_error (h : parseSchemaRef text = .error e) : e = ⟨text⟩ := by
  unfold parseSchemaRef at h
  split at h
  · cases h
  · cases h
    rfl

/-! ## Which texts are read -/

theorem exists_parse_iff : (∃ p, parse text = .ok p) ↔ IsReference text := by
  have hcut := Text.length_split '@' text.toList
  have hhead := Text.head?_split '@' text.toList
  constructor
  · rintro ⟨p, h⟩
    obtain ⟨hp, rfl⟩ := parse_eq_ok_iff.mp h
    have hpath := Text.length_split '/' (p.publisher.toList ++ '/' :: p.name.toList)
    rw [hp.split_render] at hcut hhead
    rw [hp.split_path] at hpath
    rw [List.head?_cons, Option.some_inj] at hhead
    refine ⟨(Nat.succ.inj hcut).symm, ?_⟩
    rw [← hhead]
    exact (Nat.succ.inj hpath).symm
  · rintro ⟨hat, hslash⟩
    rw [hat] at hcut
    obtain ⟨path, version, hsplit⟩ := List.length_eq_two.mp hcut
    have hpath := Text.length_split '/' path
    rw [hsplit, List.head?_cons, Option.some_inj] at hhead
    rw [hhead, hslash, ← hhead] at hpath
    obtain ⟨publisher, name, hparts⟩ := List.length_eq_two.mp hpath
    refine ⟨⟨String.ofList publisher, String.ofList name, String.ofList version⟩, ?_⟩
    simp only [parse, hsplit, hparts]

theorem exists_parseSchemaRef_iff :
    (∃ p, parseSchemaRef text = .ok p) ↔ IsSchemaReference text := by
  have hcut := Text.length_split '/' text.toList
  constructor
  · rintro ⟨p, h⟩
    obtain ⟨hp, rfl⟩ := parseSchemaRef_eq_ok_iff.mp h
    rw [hp.split_schemaRef] at hcut
    exact (Nat.succ.inj hcut).symm
  · intro hslash
    rw [hslash] at hcut
    obtain ⟨publisher, name, version, hparts⟩ := List.length_eq_three.mp hcut
    refine ⟨⟨String.ofList publisher, String.ofList name, String.ofList version⟩, ?_⟩
    simp only [parseSchemaRef, hparts]

/-! ## What is written -/

/-- A separator inside a part is one too many. -/
theorem isReference_render : IsReference p.render ↔ p.Referable := by
  constructor
  · rintro ⟨hat, hslash⟩
    rw [toList_render, List.count_append, List.count_append, List.count_cons_of_ne (by decide),
      List.count_cons_self] at hat
    have hpublisher : '@' ∉ p.publisher.toList := List.count_eq_zero.mp (by omega)
    have hname : '@' ∉ p.name.toList := List.count_eq_zero.mp (by omega)
    have hversion : '@' ∉ p.version.toList := List.count_eq_zero.mp (by omega)
    have hhead := Text.head?_split '@' p.render.toList
    rw [split_render hpublisher hname hversion, List.head?_cons, Option.some_inj] at hhead
    rw [← hhead, List.count_append, List.count_cons_self] at hslash
    exact ⟨⟨List.count_eq_zero.mp (by omega), hpublisher⟩,
      ⟨List.count_eq_zero.mp (by omega), hname⟩, hversion⟩
  · intro hp
    exact exists_parse_iff.mp ⟨p, parse_eq_ok_iff.mpr ⟨hp, rfl⟩⟩

theorem isSchemaReference_schemaRef : IsSchemaReference p.schemaRef ↔ p.SchemaReferable := by
  constructor
  · intro h
    rw [IsSchemaReference, toList_schemaRef, List.count_append, List.count_cons_self,
      List.count_append, List.count_cons_self] at h
    exact ⟨List.count_eq_zero.mp (by omega), List.count_eq_zero.mp (by omega),
      List.count_eq_zero.mp (by omega)⟩
  · intro hp
    exact exists_parseSchemaRef_iff.mp ⟨p, parseSchemaRef_eq_ok_iff.mpr ⟨hp, rfl⟩⟩

end Provider

/-! ## Written forms -/

/-- A written form of providers: which texts are read, that they are written back as they were, which
providers survive writing, and that every other text is refused by name. -/
structure WrittenForm (read : String → Except InvalidReference Provider) (write : Provider → String)
    (IsText : String → Prop) (Fits : Provider → Prop) : Prop where
  reads : ∀ text, (∃ p, read text = .ok p) ↔ IsText text
  writes_back : ∀ text p, read text = .ok p → write p = text
  refuses : ∀ text e, read text = .error e ↔ ¬ IsText text ∧ e = ⟨text⟩
  reads_back : ∀ p, read (write p) = .ok p ↔ Fits p

namespace WrittenForm

variable {read : String → Except InvalidReference Provider} {write : Provider → String}
  {IsText : String → Prop} {Fits : Provider → Prop}

/-- A reader is exact when it yields what fits and is written so, and refuses a text by name. -/
theorem of_read (hok : ∀ {text p}, read text = .ok p ↔ Fits p ∧ write p = text)
    (herror : ∀ {text e}, read text = .error e → e = ⟨text⟩)
    (hreads : ∀ {text}, (∃ p, read text = .ok p) ↔ IsText text) :
    WrittenForm read write IsText Fits where
  reads _ := hreads
  writes_back _ _ h := (hok.mp h).2
  refuses text e := by
    rw [← hreads]
    constructor
    · intro h
      refine ⟨?_, herror h⟩
      rintro ⟨p, hp⟩
      rw [h] at hp
      cases hp
    · rintro ⟨hnone, rfl⟩
      cases h : read text with
      | ok p => exact absurd ⟨p, h⟩ hnone
      | error e => rw [herror h]
  reads_back p := by rw [hok, and_iff_left rfl]

theorem reference : WrittenForm Provider.parse Provider.render IsReference Provider.Referable :=
  .of_read Provider.parse_eq_ok_iff Provider.parse_error Provider.exists_parse_iff

theorem schemaReference : WrittenForm Provider.parseSchemaRef Provider.schemaRef IsSchemaReference
    Provider.SchemaReferable :=
  .of_read Provider.parseSchemaRef_eq_ok_iff Provider.parseSchemaRef_error
    Provider.exists_parseSchemaRef_iff

end WrittenForm

/-- Both references are written forms: of every text it is told whether it is read, as what, and with
which error; of every provider, whether it comes back when it is written. -/
theorem references_written :
    WrittenForm Provider.parse Provider.render IsReference Provider.Referable ∧
      WrittenForm Provider.parseSchemaRef Provider.schemaRef IsSchemaReference
        Provider.SchemaReferable :=
  ⟨.reference, .schemaReference⟩

/-- Parts may be empty, and the version may hold a slash. -/
example : Provider.parse "/@1/2" = .ok ⟨"", "", "1/2"⟩ := by decide +kernel

end AccessGrants
