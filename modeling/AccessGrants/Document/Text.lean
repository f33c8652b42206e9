import AccessGrants.Document.Record
import AccessGrants.Json.Reader

/-!
# AccessGrants.Document.Text

Typed readers of JSON texts.

* `Decoder.ofText` — reads a text that is one document and nothing else.
-/

namespace AccessGrants.Decoder

/-- A fault inside the document is met before anything after it. -/
def ofText (decode : Decoder α) (text : String) : Except Fault α := do
  let (document, trailing) := Draft.ofText text
  let a ← decode document
  if trailing then throw .malformed else return a

end AccessGrants.Decoder
