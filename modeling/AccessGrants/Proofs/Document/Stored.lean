import AccessGrants.Proofs.Document.RoundTrip
import AccessGrants.Proofs.Document.Values
import AccessGrants.Proofs.Time.Rfc3339

/-!
# AccessGrants.Proofs.Document.Stored

The documents of requests, target groups and cached options, and what every reader of documents
yields.

* `Instant.OfMillis`   — the times that a date in milliseconds is read as.
* `Instant.takes_time` — a time of full precision is read as itself.
* `takes`              — every document is read as the value that it was written for, up to what its
                         dates leave out.
* `yields`             — every value that is read could have been written.
-/

namespace AccessGrants

open Decoder Record Json

/-! ## Times -/

namespace Instant

theorem valid_ofMillis (millis : Int) : (ofMillis millis).Valid := by
  rw [ofMillis]
  split
  · rename_i hday
    refine ⟨hday, ?_⟩
    dsimp only [billion]
    omega
  · split
    · exact ⟨by decide +kernel, by decide⟩
    · exact ⟨by decide +kernel, by decide⟩

/-- A time is kept to the millisecond. -/
theorem floorMillis_eq {t : Instant} (hday : t.representable = true) (hnanos : t.nanos < billion) :
    t.floorMillis = ⟨t.seconds, t.nanos / 1000000 * 1000000⟩ := by
  obtain ⟨seconds, nanos⟩ := t
  dsimp only [billion] at hnanos
  have hseconds : (seconds * 1000 + (nanos / 1000000 : Nat)) / 1000 = seconds := by omega
  have hmillis : ((seconds * 1000 + (nanos / 1000000 : Nat)) % 1000).toNat = nanos / 1000000 := by
    omega
  simp only [floorMillis, toMillis, ofMillis, hseconds, hmillis]
  exact if_pos hday

/-- The time is one that a date in milliseconds is read as. -/
def OfMillis (t : Instant) : Prop :=
  ∃ millis, t = ofMillis millis

theorem OfMillis.valid {t : Instant} (h : t.OfMillis) : t.Valid := by
  obtain ⟨millis, rfl⟩ := h
  exact valid_ofMillis millis

/-- A date is written and read as itself, but for the one that stands for all later ones. -/
theorem OfMillis.floorMillis_eq_iff {t : Instant} (h : t.OfMillis) :
    t.floorMillis = t ↔ t ≠ greatest := by
  obtain ⟨millis, rfl⟩ := h
  have hleast : least.floorMillis = least ∧ least ≠ greatest := by decide +kernel
  have hgreatest : greatest.floorMillis ≠ greatest := by decide +kernel
  rw [ofMillis]
  split
  · rename_i hday
    have hnanos : (millis % 1000).toNat * 1000000 < billion := by
      dsimp only [billion]
      omega
    rw [floorMillis_eq hday hnanos, Nat.mul_div_cancel _ (by decide)]
    refine iff_of_true rfl fun heq => ?_
    have hlast := congrArg nanos heq
    dsimp only [greatest] at hlast
    omega
  · split
    · exact iff_of_true hleast.1 hleast.2
    · exact iff_of_false hgreatest (fun h => h rfl)

theorem ofMillis_of_readMillis {text : String} {t : Instant} (h : readMillis text = .ok t) :
    t.OfMillis := by
  rw [readMillis] at h
  split at h
  · cases h
    exact ⟨_, rfl⟩
  · cases h

theorem yields_date : readDate.Yields OfMillis := by
  intro d t h
  unfold readDate at h
  split at h
  · exact ofMillis_of_readMillis h
  · exact ofMillis_of_readMillis h
  · split at h
    · cases h
      exact ⟨_, rfl⟩
    · cases h
  · cases d <;> cases h

/-- A time of full precision. -/
theorem takes_time {t : Instant} (h : t.Civil) : Instant.read.Takes t.toJson t := by
  show Instant.read (.string (Rfc3339.render t)) = .ok t
  simp only [Instant.read, Decoder.text, bind, Except.bind, Rfc3339.parse?_render h]

theorem yields_time : Instant.read.Yields Civil := by
  intro d t h
  obtain ⟨text, -, h⟩ := exists_of_bind_eq_ok h
  split at h
  · rename_i hparse
    cases h
    exact Rfc3339.civil_of_parse? hparse
  · cases h

end Instant

/-! ## Target groups -/

theorem TargetSchema.takes {s : TargetSchema} (h : s.schema.Ordered) :
    TargetSchema.read.Takes s.toJson s := by
  refine takes_of_has (ofFields_has (by simp)) fun slots hs => ?_
  simp only [List.forall_mem_cons] at hs
  obtain ⟨hfrom, hschema, -⟩ := hs
  exact ((reads_required hfrom (takes_text _)).map TargetSchema.mk).seq
    (reads_required hschema (takes_json h))

theorem TargetSchema.yields : TargetSchema.read.Yields fun s => s.schema.Ordered :=
  yields_decode ((yields_map fun _ _ h => h).seq (yields_required yields_json))

namespace TargetGroup

/-- The group without what is finer than a millisecond. -/
def floorMillis (g : TargetGroup) : TargetGroup :=
  { g with createdAt := g.createdAt.floorMillis, updatedAt := g.updatedAt.floorMillis }

theorem takes {g : TargetGroup} (hschema : g.targetSchema.schema.Ordered)
    (hcreated : g.createdAt.Valid) (hupdated : g.updatedAt.Valid) :
    TargetGroup.read.Takes g.toJson g.floorMillis := by
  refine takes_of_has (ofFields_has (by simp)) fun slots hs => ?_
  simp only [List.forall_mem_cons] at hs
  obtain ⟨hid, htarget, hc, hu, -⟩ := hs
  exact ((((reads_required hid (takes_text _)).map TargetGroup.mk).seq
    (reads_required htarget (TargetSchema.takes hschema))).seq
    (reads_required hc (Instant.takes_date hcreated))).seq
    (reads_required hu (Instant.takes_date hupdated))

theorem yields : TargetGroup.read.Yields fun g => g.targetSchema.schema.Ordered ∧
    g.createdAt.OfMillis ∧ g.updatedAt.OfMillis :=
  yields_decode ((((yields_map fun _ _ hschema _ hcreated _ hupdated =>
    ⟨hschema, hcreated, hupdated⟩).seq (yields_required TargetSchema.yields)).seq (yields_required Instant.yields_date)).seq
    (yields_required Instant.yields_date))

end TargetGroup

/-! ## Deployments and preflights -/

theorem Assignment.yields : Assignment.read.Yields Assignment.Fits :=
  yields_decode (((yields_map fun _ _ hpriority _ => hpriority).seq
    (yields_required (yields_integer _ _))).beside)

theorem Deployment.yields :
    Deployment.read.Yields fun d => ∀ a, d.assignment = some a → a.Fits :=
  yields_decode ((yields_map fun _ _ _ _ _ h => h).beside.beside.beside.seq
    (yields_nullable Assignment.yields))

theorem Preflight.yields : Preflight.read.Yields fun p =>
    p.createdAt.OfMillis ∧ ∀ t, p.consumedAt = some t → t.OfMillis :=
  yields_decode (((yields_map fun _ _ _ _ _ hcreated _ hconsumed =>
    ⟨hcreated, hconsumed⟩).beside.beside.beside.seq (yields_required Instant.yields_date)).seq
    (yields_defaulted (Decoder.yields_nullable Instant.yields_date) nofun))

/-! ## Requests -/

theorem Requester.takes (r : Requester) : Requester.read.Takes r.toJson r := by
  refine takes_of_has (ofFields_has (by simp)) fun slots hs => ?_
  simp only [List.forall_mem_cons] at hs
  obtain ⟨hid, hemail, -⟩ := hs
  exact ((reads_required hid (takes_text _)).map Requester.mk).seq
    (reads_required hemail (takes_text _))

namespace Grant

/-- The span of the grant has a text. -/
structure Storable (g : Grant) : Prop where
  start : g.start.Civil
  stop : g.stop.Civil

theorem takes {g : Grant} (h : g.Storable) : Grant.read.Takes g.toJson g := by
  have hstatus : (Decoder.word GrantStatus.ofName?).Takes (.string g.status.name) g.status := by
    cases g.status <;> rfl
  have hrevoked : (Decoder.nullable text).Takes (ofOption .string g.revokedBy) g.revokedBy :=
    takes_nullable_self (fun s _ => takes_text s) (by simp)
  refine takes_of_has (ofFields_has (by simp)) fun slots hs => ?_
  simp only [List.forall_mem_cons] at hs
  obtain ⟨hid, hgroup, htarget, htargetGroup, hwith, hrule, hby, hsubject, hs, hstart, hend,
    hrevokedBy, -⟩ := hs
  exact ((((((((((((reads_required hid (takes_text _)).map Grant.mk).seq
    (reads_required hgroup (takes_text _))).seq (reads_required htarget (takes_text _))).seq
    (reads_required htargetGroup (takes_text _))).seq
    (reads_required hwith g.parameters.takes)).seq (reads_required hrule (takes_text _))).seq
    (reads_required hby (takes_text _))).seq (reads_required hsubject (takes_text _))).seq
    (reads_required hs hstatus)).seq (reads_required hstart (Instant.takes_time h.start))).seq
    (reads_required hend (Instant.takes_time h.stop))).seq (reads_nullable hrevokedBy hrevoked)

theorem yields : Grant.read.Yields Storable :=
  yields_decode ((((yields_map fun _ _ _ _ _ _ _ _ _ _ hstart _ hstop _ =>
    ⟨hstart, hstop⟩).beside.beside.beside.beside.beside.beside.beside.beside.seq
    (yields_required Instant.yields_time)).seq (yields_required Instant.yields_time)).beside)

end Grant

namespace AccessGroup

/-- The duration is a word with a sign, and the spans of the grants have texts. -/
structure Storable (g : AccessGroup) : Prop where
  duration : -(Word.leastSigned : Int) ≤ g.durationSeconds ∧
    g.durationSeconds ≤ (Word.greatestSigned : Int)
  grants : ∀ grant ∈ g.grants, grant.Storable

theorem takes {g : AccessGroup} (h : g.Storable) : AccessGroup.read.Takes g.toJson g := by
  have htargets := takes_list_self fun t (_ : t ∈ g.targets) => t.takes
  have hgrants := takes_list_self fun grant hg => Grant.takes (h.grants grant hg)
  refine takes_of_has (ofFields_has (by simp)) fun slots hs => ?_
  simp only [List.forall_mem_cons] at hs
  obtain ⟨hid, hrequest, hrule, ht, hduration, hg, -⟩ := hs
  exact ((((((reads_required hid (takes_text _)).map AccessGroup.mk).seq
    (reads_required hrequest (takes_text _))).seq (reads_required hrule (takes_text _))).seq
    (reads_required ht htargets)).seq (reads_required hduration (takes_integer h.duration))).seq
    (reads_defaulted hg hgrants)

theorem yields : AccessGroup.read.Yields Storable :=
  yields_decode (((yields_map fun _ _ _ _ _ hduration _ hgrants =>
    ⟨hduration, hgrants⟩).beside.beside.beside.seq (yields_required (yields_integer _ _))).seq
    (yields_defaulted (yields_list Grant.yields) nofun))

end AccessGroup

namespace AccessRequest

/-- The request without what is finer than a millisecond in its own times. Those of its grants stay
as they are. -/
def floorMillis (r : AccessRequest) : AccessRequest :=
  { r with createdAt := r.createdAt.floorMillis, updatedAt := r.updatedAt.floorMillis }

theorem takes {r : AccessRequest} (hgroups : ∀ g ∈ r.groups, g.Storable) (hcreated : r.createdAt.Valid)
    (hupdated : r.updatedAt.Valid) : AccessRequest.read.Takes r.toJson r.floorMillis := by
  have hlist := takes_list_self fun g hg => AccessGroup.takes (hgroups g hg)
  have hreason : (Decoder.nullable text).Takes (ofOption .string r.reason) r.reason :=
    takes_nullable_self (fun s _ => takes_text s) (by simp)
  refine takes_of_has (ofFields_has (by simp)) fun slots hs => ?_
  simp only [List.forall_mem_cons] at hs
  obtain ⟨hid, hpreflight, hby, hr, hg, hreviewers, hc, hu, -⟩ := hs
  exact ((((((((reads_required hid (takes_text _)).map AccessRequest.mk).seq
    (reads_required hpreflight (takes_text _))).seq
    (reads_required hby r.requestedBy.takes)).seq (reads_nullable hr hreason)).seq
    (reads_required hg hlist)).seq (reads_defaulted hreviewers r.reviewers.takes)).seq
    (reads_required hc (Instant.takes_date hcreated))).seq
    (reads_required hu (Instant.takes_date hupdated))

theorem yields : AccessRequest.read.Yields fun r => (∀ g ∈ r.groups, g.Storable) ∧
    r.createdAt.OfMillis ∧ r.updatedAt.OfMillis :=
  yields_decode ((((yields_map fun _ _ _ _ _ hgroups _ _ hcreated _ hupdated =>
    ⟨hgroups, hcreated, hupdated⟩).beside.beside.beside.seq
    (yields_required (yields_list AccessGroup.yields))).beside.seq
    (yields_required Instant.yields_date)).seq (yields_required Instant.yields_date))

end AccessRequest

/-! ## Cached options -/

theorem ArgOption.takes (o : ArgOption) : ArgOption.read.Takes o.toJson o := by
  have hdescription : (Decoder.nullable text).Takes (ofOption .string o.description) o.description :=
    takes_nullable_self (fun s _ => takes_text s) (by simp)
  refine takes_of_has (ofFields_has (by simp)) fun slots hs => ?_
  simp only [List.forall_mem_cons] at hs
  obtain ⟨hvalue, hlabel, hd, hgroups, -⟩ := hs
  exact ((((reads_required hvalue (takes_text _)).map ArgOption.mk).seq
    (reads_required hlabel (takes_text _))).seq (reads_nullable hd hdescription)).seq
    (reads_defaulted hgroups o.groups.takes)

theorem takes_options (os : List ArgOption) :
    (Decoder.list ArgOption.read).Takes (.array (os.map ArgOption.toJson)) os :=
  takes_list_self fun o _ => o.takes

theorem ArgOptionGroup.takes (g : ArgOptionGroup) : ArgOptionGroup.read.Takes g.toJson g := by
  refine takes_of_has (ofFields_has (by simp)) fun slots hs => ?_
  simp only [List.forall_mem_cons] at hs
  obtain ⟨hid, htitle, hoptions, -⟩ := hs
  exact (((reads_required hid (takes_text _)).map ArgOptionGroup.mk).seq
    (reads_required htitle (takes_text _))).seq (reads_required hoptions (takes_options _))

namespace CachedArgOptions

/-- The options without what is finer than a millisecond in the time of their fetch. -/
def floorMillis (c : CachedArgOptions) : CachedArgOptions :=
  { c with fetchedAt := c.fetchedAt.floorMillis }

theorem takes {c : CachedArgOptions} (h : c.fetchedAt.Valid) :
    CachedArgOptions.read.Takes c.toJson c.floorMillis := by
  have hgrouped := takes_list_self fun g (_ : g ∈ c.content.grouped) => g.takes
  refine takes_of_has (ofFields_has (by simp [ArgOptions.fields])) fun slots hs => ?_
  simp only [ArgOptions.fields, List.cons_append, List.nil_append, List.forall_mem_cons] at hs
  obtain ⟨hprovider, harg, hfetched, hoptions, hg, -⟩ := hs
  have hcontent : contentRecord.Reads slots c.content :=
    ((reads_required hoptions (takes_options _)).map ArgOptions.mk).seq (reads_required hg hgrouped)
  exact ((((reads_required hprovider (takes_text _)).map CachedArgOptions.mk).seq
    (reads_required harg (takes_text _))).seq hcontent).seq
    (reads_required hfetched (Instant.takes_date h))

theorem yields : CachedArgOptions.read.Yields fun c => c.fetchedAt.OfMillis :=
  yields_decode ((yields_map fun _ _ _ _ hfetched => hfetched).beside.beside.seq
    (yields_required Instant.yields_date))

end CachedArgOptions

end AccessGrants
