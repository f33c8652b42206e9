import AccessGrants.Proofs.Document.RoundTrip
import AccessGrants.Proofs.Mongo.Table
import AccessGrants.Proofs.Store.Links

/-!
# AccessGrants.Proofs.Mongo.Deployments

The documents of deployments: which of them a filter admits, which the indexes refuse, and what they
are after a write.

* `Deployment.Shown`   — the document has the fields of the deployment.
* `Shown.admits_guard` — a guarded registration finds the deployments that its guard allows.
* `Shown.refused_iff`  — the indexes refuse a deployment beside one of its id or target group.
* `Shown.registered`, `Shown.assigned`, `Shown.cleared`, `shown_created` — the writes.
-/

namespace AccessGrants

open MongoStore

namespace Deployment

/-- The document has the fields of the deployment, and maybe others. -/
structure Shown (d : Deployment) (doc : Json) : Prop where
  fields : doc.Has d.fields
  fits : ∀ a, d.assignment = some a → a.Fits

variable {d b : Deployment} {doc : Json}

theorem Shown.id (h : d.Shown doc) : doc.field? "id" = some (.string d.id) :=
  h.fields.field ("id", .string d.id) (by simp [Deployment.fields])

theorem Shown.path_id (h : d.Shown doc) : doc.path? "id" = some (.string d.id) :=
  (Json.path?_field rfl).trans h.id

theorem Shown.path_provider (h : d.Shown doc) : doc.path? "provider" = some d.provider.toJson :=
  (Json.path?_field rfl).trans
    (h.fields.field ("provider", d.provider.toJson) (by simp [Deployment.fields]))

theorem Shown.assignment (h : d.Shown doc) : doc.field? "target_group_assignment" =
    some (Json.ofOption Assignment.toJson d.assignment) :=
  h.fields.field ("target_group_assignment", Json.ofOption Assignment.toJson d.assignment)
    (by simp [Deployment.fields])

theorem Shown.path_assignment (h : d.Shown doc) : doc.path? "target_group_assignment" =
    some (Json.ofOption Assignment.toJson d.assignment) :=
  (Json.path?_field rfl).trans h.assignment

/-- There is a target group at its path when there is an assignment. -/
theorem Shown.path_boundTo (h : d.Shown doc) :
    doc.path? boundTo = d.assignment.map fun a => .string a.targetGroupId := by
  have hnames : (boundTo.toList.splitOn '.').map String.ofList =
      ["target_group_assignment", "target_group_id"] := by decide +kernel
  rw [Json.path?, hnames, Json.at?, h.assignment]
  cases ha : d.assignment with
  | none => rfl
  | some a =>
    have hgroup : a.toJson.field? "target_group_id" = some (.string a.targetGroupId) :=
      (Json.ofFields_has (by simp)).field ("target_group_id", _) List.mem_cons_self
    show (a.toJson.field? "target_group_id").bind _ = _
    rw [hgroup]
    rfl

theorem Shown.read (h : d.Shown doc) : readDocument Deployment.read doc = .ok d := by
  rw [readDocument, Deployment.takes h.fields h.fits]

/-- A document shows one deployment only. -/
theorem Shown.unique (hd : d.Shown doc) (hb : b.Shown doc) : d = b :=
  Except.ok.inj (hd.read.symm.trans hb.read)

/-! ## Which deployments a filter admits -/

theorem Shown.admits_byId (h : d.Shown doc) (id : String) :
    (byId id).admits doc = true ↔ d.id = id := by
  simp [Filter.admits, byId, h.path_id]

theorem ofOption_eq_null : Json.ofOption Assignment.toJson d.assignment = .null ↔
    d.isAssigned = false := by
  cases h : d.assignment <;> simp [isAssigned, h, Json.ofOption, Assignment.toJson, Json.ofFields]

theorem Shown.admits_boundTo (h : d.Shown doc) (g : String) :
    Filter.admits [(boundTo, .string g)] doc = true ↔ d.assignedTo g = true := by
  cases ha : d.assignment <;> simp [Filter.admits, h.path_boundTo, assignedTo, ha]

theorem admits_append {f f' : Filter} :
    Filter.admits (f ++ f') doc = true ↔ f.admits doc = true ∧ f'.admits doc = true := by
  simp [Filter.admits, List.all_append]

/-- The filter of a guarded registration. -/
def guardFilter (id : String) : AssignmentGuard → Filter
  | .any => byId id
  | .unassigned => byId id ++ [("target_group_assignment", .null)]
  | .assignedTo g => byId id ++ [(boundTo, .string g)]

theorem Shown.admits_guard (h : d.Shown doc) (id : String) (guard : AssignmentGuard) :
    (guardFilter id guard).admits doc = true ↔
      d.id = id ∧ MemoryStore.allows guard (some d) = true := by
  cases guard with
  | any => simp [guardFilter, h.admits_byId, MemoryStore.allows]
  | unassigned =>
    rw [guardFilter, admits_append, h.admits_byId]
    simp [Filter.admits, h.path_assignment, ofOption_eq_null, MemoryStore.allows]
  | assignedTo g =>
    rw [guardFilter, admits_append, h.admits_byId, h.admits_boundTo]
    rfl

theorem Shown.admits_free (h : d.Shown doc) (id : String) (p : Provider) :
    Filter.admits (byId id ++ [("provider", p.toJson), ("target_group_assignment", .null)]) doc =
      true ↔ d.id = id ∧ d.provider = p ∧ d.isAssigned = false := by
  have hprovider : d.provider.toJson = p.toJson ↔ d.provider = p := by
    refine ⟨fun heq => ?_, fun heq => by rw [heq]⟩
    have hread := d.provider.takes
    rw [heq] at hread
    exact (Except.ok.inj (p.takes.symm.trans hread)).symm
  rw [admits_append, h.admits_byId]
  simp [Filter.admits, h.path_provider, h.path_assignment, ofOption_eq_null, hprovider]

end Deployment

/-! ## What the indexes refuse -/

/-- The indexes of deployments: by id, and by the target group of those that are assigned. -/
def deploymentIndexes : List Index :=
  [indexCommands.idIndex "deployment_id_idx",
    ⟨"deployment_target_group_idx", [(boundTo, 1)], true, some boundTo⟩]

namespace Deployment

variable {d b : Deployment} {doc other : Json}

/-- Two deployments of one id, or of one target group. -/
def Clash (d b : Deployment) : Prop :=
  b.id = d.id ∨ ∃ g, d.assignedTo g = true ∧ b.assignedTo g = true

theorem Shown.entry (h : d.Shown doc) {name : String} :
    (Index.mk name [(boundTo, 1)] true (some boundTo)).entryOf doc =
      d.assignment.map fun a => [.string a.targetGroupId] := by
  cases ha : d.assignment <;> simp [Index.entryOf, h.path_boundTo, ha]

theorem Shown.bound_refuses {others : List Json} (h : d.Shown doc)
    (hothers : ∀ other ∈ others, ∃ b : Deployment, b.Shown other) {name : String} :
    (Index.mk name [(boundTo, 1)] true (some boundTo)).refuses doc others = true ↔
      ∃ other ∈ others, ∃ b : Deployment, b.Shown other ∧
        ∃ g, d.assignedTo g = true ∧ b.assignedTo g = true := by
  simp only [Index.refuses, Bool.true_and, Bool.and_eq_true, List.any_eq_true, decide_eq_true_eq,
    h.entry, Option.isSome_map, Option.isSome_iff_exists]
  constructor
  · rintro ⟨⟨a, ha⟩, other, hother, heq⟩
    obtain ⟨b, hb⟩ := hothers other hother
    rw [hb.entry, ha, Option.map_some, Option.map_eq_some_iff] at heq
    obtain ⟨a', ha', hsame⟩ := heq
    have hgroup : a'.targetGroupId = a.targetGroupId := by simpa using hsame
    exact ⟨other, hother, b, hb, a.targetGroupId, MemoryStore.assignedTo_iff.mpr ⟨a, ha, rfl⟩,
      MemoryStore.assignedTo_iff.mpr ⟨a', ha', hgroup⟩⟩
  · rintro ⟨other, hother, b, hb, g, hd, hg⟩
    obtain ⟨a, ha, rfl⟩ := MemoryStore.assignedTo_iff.mp hd
    obtain ⟨a', ha', hgroup⟩ := MemoryStore.assignedTo_iff.mp hg
    refine ⟨⟨a, ha⟩, other, hother, ?_⟩
    rw [hb.entry, ha, ha', Option.map_some, Option.map_some, hgroup]

/-- The indexes refuse a deployment exactly beside one that it clashes with. -/
theorem Shown.refused_iff {others : List Json} (h : d.Shown doc)
    (hothers : ∀ other ∈ others, ∃ b : Deployment, b.Shown other) :
    (deploymentIndexes.any fun index => index.refuses doc others) = true ↔
      ∃ other ∈ others, ∃ b : Deployment, b.Shown other ∧ d.Clash b := by
  have hid : (∃ other ∈ others, (other.path? "id").getD .null = (doc.path? "id").getD .null) ↔
      ∃ other ∈ others, ∃ b : Deployment, b.Shown other ∧ b.id = d.id := by
    constructor
    · rintro ⟨other, hother, heq⟩
      obtain ⟨b, hb⟩ := hothers other hother
      rw [hb.path_id, h.path_id] at heq
      exact ⟨other, hother, b, hb, by simpa using heq⟩
    · rintro ⟨other, hother, b, hb, heq⟩
      exact ⟨other, hother, by rw [hb.path_id, h.path_id, heq]⟩
  simp only [deploymentIndexes, List.any_cons, List.any_nil, Bool.or_false, Bool.or_eq_true,
    idIndex_refuses, hid, h.bound_refuses hothers]
  constructor
  · rintro (⟨other, hother, b, hb, heq⟩ | ⟨other, hother, b, hb, hg⟩)
    · exact ⟨other, hother, b, hb, .inl heq⟩
    · exact ⟨other, hother, b, hb, .inr hg⟩
  · rintro ⟨other, hother, b, hb, heq | hg⟩
    · exact .inl ⟨other, hother, b, hb, heq⟩
    · exact .inr ⟨other, hother, b, hb, hg⟩

/-! ## What is written -/

/-- The fields that a registration writes. -/
def written (d : Deployment) : List (String × Json) :=
  [("provider", d.provider.toJson), ("function_url", Json.ofOption .string d.functionUrl),
    ("diagnostics", .array (d.diagnostics.map Diagnostic.toJson))]

theorem Shown.registered (h : b.Shown doc) (hid : b.id = d.id) :
    (MemoryStore.merged d (some b)).Shown (doc.setFields d.written) := by
  refine ⟨h.fields.setFields ?_, h.fits⟩
  simp [Deployment.fields, written, MemoryStore.merged, List.lookup_cons, hid]

theorem Shown.assigned (h : d.Shown doc) {a : Assignment} (ha : a.Fits) :
    Shown { d with assignment := some a }
      (doc.setFields [("target_group_assignment", a.toJson)]) := by
  refine ⟨h.fields.setFields ?_, fun a' ha' => ?_⟩
  · simp [Deployment.fields, Json.ofOption]
  · cases ha'
    exact ha

theorem Shown.cleared (h : d.Shown doc) :
    Shown { d with assignment := none } (doc.setFields [("target_group_assignment", .null)]) := by
  refine ⟨h.fields.setFields ?_, by simp⟩
  simp [Deployment.fields, Json.ofOption]

/-- What a registration writes into a new document besides. -/
def onInsert : AssignmentGuard → List (String × Json)
  | .any => [("target_group_assignment", .null)]
  | .unassigned | .assignedTo _ => []

/-- Whether a guarded registration makes a new deployment when it finds none. -/
def creates : AssignmentGuard → Bool
  | .any | .unassigned => true
  | .assignedTo _ => false

theorem upsertDeployment_eq (d : Deployment) (guard : AssignmentGuard) :
    MongoStore.upsertDeployment d guard = .findAndModify .deployments (guardFilter d.id guard)
      ⟨d.written, onInsert guard⟩ (some (creates guard)) := by
  cases guard <;> rfl

theorem shown_created (d : Deployment) {guard : AssignmentGuard} (hg : ∀ g, guard ≠ .assignedTo g)
    (server : Server) : (MemoryStore.merged d none).Shown
      (Database.identified server
        ((Json.object []).setFields (guardFilter d.id guard ++ d.written ++ onInsert guard))) := by
  have hfields : ((Json.object []).setFields
      (guardFilter d.id guard ++ d.written ++ onInsert guard)).Has
        (MemoryStore.merged d none).fields := by
    refine Json.has_nothing.setFields ?_
    cases guard with
    | assignedTo g => exact absurd rfl (hg g)
    | _ =>
      simp [Deployment.fields, written, MemoryStore.merged, guardFilter, onInsert, byId,
        List.lookup_cons, Json.ofOption]
  refine ⟨hfields.setFields ?_, by simp [MemoryStore.merged]⟩
  simp [Deployment.fields]

end Deployment

end AccessGrants
