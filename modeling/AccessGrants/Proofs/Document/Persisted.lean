import AccessGrants.Proofs.Document.Stored

/-!
# AccessGrants.Proofs.Document.Persisted

The types that are kept as documents, and what becomes of their values there.

* `Persisted`             — the types, each with its writer, its reader and its dates.
* `Persisted.Storable`    — the values that have a document.
* `takes_write`           — what is written is read again, but for what is finer than a millisecond in
                            its dates.
* `yields_read`           — whatever is read can be written.
* `round_trip`            — so documents are stable, unless a date is the last one there is.
-/

namespace AccessGrants

inductive Persisted where
  | targetGroup
  | deployment
  | preflight
  | request
  | target
  | argOptions

namespace Persisted

abbrev Value : Persisted → Type
  | targetGroup => TargetGroup
  | deployment => Deployment
  | preflight => Preflight
  | request => AccessRequest
  | target => Target
  | argOptions => CachedArgOptions

def write : (k : Persisted) → k.Value → Json
  | targetGroup => TargetGroup.toJson
  | deployment => Deployment.toJson
  | preflight => Preflight.toJson
  | request => AccessRequest.toJson
  | target => Target.toJson
  | argOptions => CachedArgOptions.toJson

def read : (k : Persisted) → Decoder k.Value
  | targetGroup => TargetGroup.read
  | deployment => Deployment.read
  | preflight => Preflight.read
  | request => AccessRequest.read
  | target => Target.read
  | argOptions => CachedArgOptions.read

/-- The times that are written as dates. -/
def dates : (k : Persisted) → k.Value → List Instant
  | targetGroup, g => [g.createdAt, g.updatedAt]
  | deployment, _ => []
  | preflight, p => p.createdAt :: p.consumedAt.toList
  | request, r => [r.createdAt, r.updatedAt]
  | target, _ => []
  | argOptions, c => [c.fetchedAt]

/-- The value without what is finer than a millisecond in its dates. -/
def floorMillis : (k : Persisted) → k.Value → k.Value
  | targetGroup => TargetGroup.floorMillis
  | deployment => id
  | preflight => Preflight.floorMillis
  | request => AccessRequest.floorMillis
  | target => id
  | argOptions => CachedArgOptions.floorMillis

/-- Whatever is not a date has a place in a document: numbers are words with a sign, the spans of
grants have texts, and the fields in a schema stand in order. -/
def Fits : (k : Persisted) → k.Value → Prop
  | targetGroup, g => g.targetSchema.schema.Ordered
  | deployment, d => ∀ a, d.assignment = some a → a.Fits
  | preflight, _ => True
  | request, r => ∀ g ∈ r.groups, g.Storable
  | target, _ => True
  | argOptions, _ => True

/-- The value has a document. -/
structure Storable (k : Persisted) (v : k.Value) : Prop where
  fits : k.Fits v
  dates : ∀ t ∈ k.dates v, t.Valid

variable {k : Persisted} {v : k.Value}

theorem takes_write (h : k.Storable v) : k.read.Takes (k.write v) (k.floorMillis v) := by
  obtain ⟨hfits, hdates⟩ := h
  cases k with
  | targetGroup =>
    exact TargetGroup.takes hfits (hdates _ (by simp [dates])) (hdates _ (by simp [dates]))
  | deployment => exact Deployment.takes (Json.ofFields_has (by simp)) hfits
  | preflight =>
    refine Preflight.takes (Json.ofFields_has (by simp)) ⟨hdates _ List.mem_cons_self, fun t ht => ?_⟩
    exact hdates t (List.mem_cons_of_mem _ (Option.mem_toList.mpr ht))
  | request =>
    exact AccessRequest.takes hfits (hdates _ (by simp [dates])) (hdates _ (by simp [dates]))
  | target => exact v.takes
  | argOptions => exact CachedArgOptions.takes (hdates _ List.mem_cons_self)

theorem yields_read (k : Persisted) :
    k.read.Yields fun v => k.Fits v ∧ ∀ t ∈ k.dates v, t.OfMillis := by
  intro d v h
  cases k with
  | targetGroup =>
    obtain ⟨hschema, hcreated, hupdated⟩ := TargetGroup.yields d v h
    exact ⟨hschema, by simp [dates, hcreated, hupdated]⟩
  | deployment => exact ⟨Deployment.yields d v h, nofun⟩
  | preflight =>
    obtain ⟨hcreated, hconsumed⟩ := Preflight.yields d v h
    refine ⟨trivial, List.forall_mem_cons.mpr ⟨hcreated, fun t ht => ?_⟩⟩
    exact hconsumed t (Option.mem_toList.mp ht)
  | request =>
    obtain ⟨hgroups, hcreated, hupdated⟩ := AccessRequest.yields d v h
    exact ⟨hgroups, by simp [dates, hcreated, hupdated]⟩
  | target => exact ⟨trivial, nofun⟩
  | argOptions => exact ⟨trivial, by simpa [dates] using CachedArgOptions.yields d v h⟩

theorem floorMillis_eq_iff : k.floorMillis v = v ↔ ∀ t ∈ k.dates v, t.floorMillis = t := by
  cases k with
  | targetGroup =>
    obtain ⟨id, schema, created, updated⟩ := v
    simp [floorMillis, dates, TargetGroup.floorMillis]
  | deployment => simp [floorMillis, dates]
  | preflight =>
    obtain ⟨id, user, targets, groups, created, consumed⟩ := v
    cases consumed <;> simp [floorMillis, dates, Preflight.floorMillis]
  | request =>
    obtain ⟨id, preflight, requester, reason, groups, reviewers, created, updated⟩ := v
    simp [floorMillis, dates, AccessRequest.floorMillis]
  | target => simp [floorMillis, dates]
  | argOptions =>
    obtain ⟨provider, arg, content, fetched⟩ := v
    simp [floorMillis, dates, CachedArgOptions.floorMillis]

/-- Every value that has a document is read from it as it was, but for its dates, which are rounded
down to the millisecond. Whatever is read has a document, and is read from it as it is, unless a date
is the last instant there is, which stands for every date that is later. -/
theorem round_trip (k : Persisted) :
    (∀ v, k.Storable v → k.read (Draft.ofJson (k.write v)) = .ok (k.floorMillis v) ∧
      ∀ t ∈ k.dates v, t.nanos < Instant.billion →
        t.floorMillis = ⟨t.seconds, t.nanos / 1000000 * 1000000⟩) ∧
    (∀ d v, k.read d = .ok v → k.Storable v ∧
      k.read (Draft.ofJson (k.write v)) = .ok (k.floorMillis v) ∧
      (∀ t ∈ k.dates v, t.floorMillis = t ↔ t ≠ Instant.greatest) ∧
      (k.floorMillis v = v ↔ Instant.greatest ∉ k.dates v)) := by
  refine ⟨fun v h => ⟨takes_write h, fun t ht hnanos => ?_⟩, fun d v h => ?_⟩
  · exact Instant.floorMillis_eq (h.dates t ht).day hnanos
  · obtain ⟨hfits, hmillis⟩ := yields_read k d v h
    have hstable : ∀ t ∈ k.dates v, t.floorMillis = t ↔ t ≠ Instant.greatest :=
      fun t ht => (hmillis t ht).floorMillis_eq_iff
    have hstorable : k.Storable v := ⟨hfits, fun t ht => (hmillis t ht).valid⟩
    refine ⟨hstorable, takes_write hstorable, hstable, ?_⟩
    rw [floorMillis_eq_iff]
    refine ⟨fun hall hmem => ?_, fun hnot t ht => ?_⟩
    · exact (hstable _ hmem).mp (hall _ hmem) rfl
    · exact (hstable t ht).mpr fun heq => hnot (heq ▸ ht)

namespace Sample

/-! A request with times before 1970 and after the year 9999, and a preflight that was not used. -/

def grant : Grant :=
  ⟨"g1", "ag1", "t1", "aws", ∅, "rule", "alice", "alice@example.org", .active, ⟨-1, 999999999⟩,
    ⟨253402300800, 1⟩, none⟩

def request : AccessRequest :=
  ⟨"r1", "p1", ⟨"alice", "alice@example.org"⟩, none, [⟨"ag1", "r1", "rule", [], 3600, [grant]⟩], ∅,
    ⟨-1, 123456789⟩, ⟨253402300800, 500⟩⟩

theorem request_storable : Persisted.request.Storable request where
  fits := by
    have hstart : grant.start.Civil := ⟨by decide +kernel, by decide, by decide⟩
    have hstop : grant.stop.Civil := ⟨by decide +kernel, by decide, by decide⟩
    intro g hg
    obtain rfl := List.mem_singleton.mp hg
    exact ⟨by decide, fun grant hg => List.mem_singleton.mp hg ▸ ⟨hstart, hstop⟩⟩
  dates t ht := by
    have hcreated : request.createdAt.Valid := ⟨by decide +kernel, by decide⟩
    have hupdated : request.updatedAt.Valid := ⟨by decide +kernel, by decide⟩
    rcases List.mem_cons.mp ht with rfl | ht
    · exact hcreated
    · exact List.mem_singleton.mp ht ▸ hupdated

def date (millis : String) : Draft :=
  .object [("$date", .object [("$numberLong", .string millis)] true)] true

/-- A field that nobody reads stands between the others, and `consumed_at` is absent. -/
def draft : Draft :=
  .object [("user_id", .string "alice"), ("note", .int 1), ("id", .string "p1"),
    ("requested_targets", .array [] true), ("access_groups", .array [] true),
    ("created_at", date "-1")] true

def preflight : Preflight :=
  ⟨"p1", "alice", [], [], ⟨-1, 999000000⟩, none⟩

theorem request_and_preflight_kept :
    Persisted.request.read (Draft.ofJson (Persisted.request.write request)) =
        .ok (Persisted.request.floorMillis request) ∧
      Persisted.preflight.read (Draft.ofJson (Persisted.preflight.write preflight)) =
        .ok preflight := by
  have hread : Persisted.preflight.read draft = .ok preflight := by decide +kernel
  have hdate : Instant.greatest ∉ Persisted.preflight.dates preflight := by decide +kernel
  obtain ⟨-, hkept, -, hsame⟩ := (round_trip .preflight).2 draft preflight hread
  rw [hsame.mpr hdate] at hkept
  exact ⟨((round_trip .request).1 request request_storable).1, hkept⟩

/-- A request of a date that lies beyond the last representable millisecond. -/
def lateDraft : Draft :=
  .object [("id", .string "r1"), ("preflight_id", .string "p1"),
    ("requested_by", .object [("id", .string "alice"), ("email", .string "alice@example.org")] true),
    ("reason", .null), ("groups", .array [] true), ("reviewers", .array [] true),
    ("created_at", date "9223372036854775807"), ("updated_at", date "0")] true

def lateRequest : AccessRequest :=
  ⟨"r1", "p1", ⟨"alice", "alice@example.org"⟩, none, [], ∅, .greatest, ⟨0, 0⟩⟩

/-- The date is read as the last instant there is, which is not a whole number of milliseconds. -/
theorem late_date_rounded :
    Persisted.request.read lateDraft = .ok lateRequest ∧
      Persisted.request.read (Draft.ofJson (Persisted.request.write lateRequest)) ≠ .ok lateRequest := by
  decide +kernel

end Sample

end Persisted
end AccessGrants
