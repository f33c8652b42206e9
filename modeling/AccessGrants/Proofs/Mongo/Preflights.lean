import AccessGrants.Proofs.Document.RoundTrip
import AccessGrants.Proofs.Mongo.Table

/-!
# AccessGrants.Proofs.Mongo.Preflights

The documents of preflights: which of them a filter admits, and what they are after a write.

* `Preflight.Shown`     — the document has the fields of the preflight.
* `Shown.admits_usable` — a claim finds the preflights that its user may still use.
* `Shown.refused_iff`   — the index refuses a preflight beside one of its id.
* `shown_toJson`, `Shown.setIdentity`, `Shown.claimed` — the writes.
-/

namespace AccessGrants

open MongoStore

/-- The only index of preflights is by id. -/
def preflightIndexes : List Index :=
  [indexCommands.idIndex "preflight_id_idx"]

namespace Preflight

/-- The document has the fields of the preflight, and maybe others. -/
structure Shown (p : Preflight) (doc : Json) : Prop where
  fields : doc.Has p.fields
  valid : p.Valid

variable {p q : Preflight} {doc : Json}

theorem Shown.id (h : p.Shown doc) : doc.field? "id" = some (.string p.id) :=
  h.fields.field ("id", .string p.id) (by simp [Preflight.fields])

theorem Shown.path_id (h : p.Shown doc) : doc.path? "id" = some (.string p.id) :=
  (Json.path?_field rfl).trans h.id

theorem Shown.path_userId (h : p.Shown doc) : doc.path? "user_id" = some (.string p.userId) :=
  (Json.path?_field rfl).trans
    (h.fields.field ("user_id", .string p.userId) (by simp [Preflight.fields]))

theorem Shown.path_consumedAt (h : p.Shown doc) :
    doc.path? "consumed_at" = some (Json.ofOption Instant.toDate p.consumedAt) :=
  (Json.path?_field rfl).trans
    (h.fields.field ("consumed_at", Json.ofOption Instant.toDate p.consumedAt)
      (by simp [Preflight.fields]))

theorem Shown.read (h : p.Shown doc) : readDocument Preflight.read doc = .ok p.floorMillis := by
  rw [readDocument, Preflight.takes h.fields h.valid]

theorem Shown.admits_byId (h : p.Shown doc) (id : String) :
    (byId id).admits doc = true ↔ p.id = id := by
  simp [Filter.admits, byId, h.path_id]

theorem Shown.admits_usable (h : p.Shown doc) (id userId : String) :
    (usable id userId).admits doc = true ↔ p.id = id ∧ p.usableBy userId = true := by
  have hfree : Json.ofOption Instant.toDate p.consumedAt = .null ↔ p.consumedAt = none := by
    cases h : p.consumedAt with
    | none => simp [Json.ofOption]
    | some t => simp [Json.ofOption, Instant.toDate_ne_null]
  simp [Filter.admits, usable, byId, h.path_id, h.path_userId, h.path_consumedAt, hfree, usableBy,
    isConsumed]

theorem shown_toJson (hp : p.Valid) : p.Shown p.toJson :=
  ⟨Json.ofFields_has (by simp), hp⟩

/-- Its identity is not among the fields of a preflight. -/
theorem Shown.setIdentity (h : p.Shown doc) (identity : Json) :
    p.Shown (doc.setFields [("_id", identity)]) := by
  refine ⟨h.fields.setFields ?_, h.valid⟩
  simp [Preflight.fields]

theorem Shown.claimed (h : p.Shown doc) {t : Instant} (ht : t.Valid) :
    Shown { p with consumedAt := some t } (doc.setFields [("consumed_at", t.toDate)]) := by
  refine ⟨h.fields.setFields ?_, h.valid.created, fun t' ht' => ?_⟩
  · simp [Preflight.fields, Json.ofOption]
  · cases ht'
    exact ht

/-- The index refuses a preflight exactly beside one of its id. -/
theorem Shown.refused_iff {others : List Json} (h : p.Shown doc) :
    (preflightIndexes.any fun index => index.refuses doc others) = true ↔
      ∃ other ∈ others, (other.path? "id").getD .null = .string p.id := by
  simp [preflightIndexes, idIndex_refuses, h.path_id]

end Preflight

end AccessGrants
