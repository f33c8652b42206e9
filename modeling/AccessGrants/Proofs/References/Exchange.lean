import AccessGrants.Proofs.References.Grammar

/-!
# AccessGrants.Proofs.References.Exchange

Providers that were read in one written form, written in the other.

* `Provider.Carried`    — what becomes of a provider in a form that is not its own.
* `references_exchange` — each form carries those providers of the other that have no separator of its
  own in a part, and refuses the others; none is ever read as another provider.
-/

namespace AccessGrants

namespace Provider

variable {p : Provider}

/-- A provider in a form with this reader and writer: when it fits it comes back, otherwise its text
is refused and no other text is read as it. -/
structure Carried (read : String → Except InvalidReference Provider) (write : Provider → String)
    (p : Provider) (Fits : Prop) : Prop where
  comes_back : Fits → read (write p) = .ok p
  is_refused : ¬ Fits → read (write p) = .error ⟨write p⟩
  has_text : (∃ text, read text = .ok p) ↔ Fits

theorem Carried.of_form {read : String → Except InvalidReference Provider}
    {write : Provider → String} {IsText : String → Prop} {Fits : Provider → Prop} {condition : Prop}
    (form : WrittenForm read write IsText Fits) (htext : IsText (write p) ↔ Fits p)
    (hfits : Fits p ↔ condition) : Carried read write p condition where
  comes_back h := (form.reads_back p).mpr (hfits.mpr h)
  is_refused h := (form.refuses _ _).mpr ⟨fun ht => h (hfits.mp (htext.mp ht)), rfl⟩
  has_text := by
    rw [← hfits, ← form.reads_back]
    constructor
    · rintro ⟨text, h⟩
      rw [form.writes_back text p h]
      exact h
    · intro h
      exact ⟨write p, h⟩

theorem Referable.schemaReferable_iff (hp : p.Referable) :
    p.SchemaReferable ↔ '/' ∉ p.version.toList :=
  ⟨fun h => h.version, fun h => ⟨hp.publisher.1, hp.name.1, h⟩⟩

theorem SchemaReferable.referable_iff (hp : p.SchemaReferable) :
    p.Referable ↔
      '@' ∉ p.publisher.toList ∧ '@' ∉ p.name.toList ∧ '@' ∉ p.version.toList :=
  ⟨fun h => ⟨h.publisher.2, h.name.2, h.version⟩,
    fun h => ⟨⟨hp.publisher, h.1⟩, ⟨hp.name, h.2.1⟩, h.2.2⟩⟩

/-- A provider that is registered or behind a target group was read from a canonical reference; one
that is compared was read from a schema target reference. The first can be compared just when its
version has no slash, and the second can be registered just when no part of it has an at sign. In the
form that does not carry it a provider has no text at all, and the text that it is written as is
refused. -/
theorem references_exchange (p : Provider) (text : String) :
    (parse text = .ok p →
      Carried parseSchemaRef schemaRef p ('/' ∉ p.version.toList)) ∧
    (parseSchemaRef text = .ok p →
      Carried parse render p
        ('@' ∉ p.publisher.toList ∧ '@' ∉ p.name.toList ∧ '@' ∉ p.version.toList)) := by
  constructor
  · intro h
    have hp : p.Referable := (parse_eq_ok_iff.mp h).1
    exact .of_form .schemaReference isSchemaReference_schemaRef hp.schemaReferable_iff
  · intro h
    have hp : p.SchemaReferable := (parseSchemaRef_eq_ok_iff.mp h).1
    exact .of_form .reference isReference_render hp.referable_iff

namespace Unusual

def slashed : Provider := ⟨"acme", "ec2", "1/2"⟩

def signed : Provider := ⟨"ac@me", "ec2", "1"⟩

/-- A build that can be registered and not compared, and one that can be compared and not registered. -/
theorem not_exchanged :
    (parse "acme/ec2@1/2" = .ok slashed ∧ parseSchemaRef slashed.schemaRef ≠ .ok slashed) ∧
    (parseSchemaRef "ac@me/ec2/1" = .ok signed ∧ parse signed.render ≠ .ok signed) := by
  decide +kernel

/-- They have no text in the other form, and a build without separators has one in each. -/
theorem no_text :
    (¬ ∃ text, parseSchemaRef text = .ok slashed) ∧ (¬ ∃ text, parse text = .ok signed) ∧
      parseSchemaRef "acme/ec2/1.2.0" = .ok ⟨"acme", "ec2", "1.2.0"⟩ := by
  have hslashed := (references_exchange slashed "acme/ec2@1/2").1 (by decide +kernel)
  have hsigned := (references_exchange signed "ac@me/ec2/1").2 (by decide +kernel)
  have hplain := (references_exchange ⟨"acme", "ec2", "1.2.0"⟩ "acme/ec2@1.2.0").1 (by decide +kernel)
  refine ⟨?_, ?_, hplain.comes_back (by decide +kernel)⟩
  · rw [hslashed.has_text]
    decide +kernel
  · rw [hsigned.has_text]
    decide +kernel

end Unusual

end Provider

end AccessGrants
