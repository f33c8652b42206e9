import AccessGrants.Document.Models
import AccessGrants.Proofs.Document.Reading
import AccessGrants.Proofs.Names
import AccessGrants.Proofs.Text.Integer
import Mathlib.Data.Set.List

/-!
# AccessGrants.Proofs.Document.RoundTrip

What is read from the documents of the domain types. Every document is read as the value that it was
written for, up to what a date leaves out.

* `Instant.Valid`           — times that the program can have.
* `Instant.takes_date`      — a date is read as the time without what is finer than a millisecond.
* `Deployment.takes`, `Preflight.takes` — so is every document with their fields, whatever other
                              fields it has.
-/

namespace AccessGrants

open Decoder Record Json

/-! ## Times -/

namespace Instant

/-- A representable time; its nanoseconds may reach into a leap second. -/
structure Valid (t : Instant) : Prop where
  day : t.representable = true
  leap : t.nanos < 2 * billion

theorem Valid.millis {t : Instant} (h : t.Valid) :
    -(Word.leastSigned : Int) ≤ t.toMillis ∧ t.toMillis ≤ Word.greatestSigned := by
  have hleast : leastSecond = -8334601228800 := by decide +kernel
  have hgreatest : greatestSecond = 8210266876799 := by decide +kernel
  obtain ⟨hday, hleap⟩ := h
  simp only [representable, hleast, hgreatest, Bool.and_eq_true, decide_eq_true_eq] at hday
  simp only [billion] at hleap
  simp only [toMillis, Word.leastSigned, Word.greatestSigned]
  omega

theorem takes_date {t : Instant} (h : t.Valid) : readDate.Takes t.toDate t.floorMillis := by
  have hparse : readMillis (toString t.toMillis) = .ok (ofMillis t.toMillis) := by
    rw [readMillis, Text.parseSigned_toString h.millis.1 h.millis.2]
  exact hparse

theorem toDate_ne_null (t : Instant) : t.toDate ≠ .null := by
  simp [toDate, ofFields]

end Instant

/-! ## Sets of names, and maps to texts -/

theorem takes_strings (texts : List String) :
    (Decoder.list Decoder.text).Takes (ofStrings texts) texts :=
  takes_list_self fun s _ => takes_text s

theorem Names.takes (n : Names) : Decoder.names.Takes n.toJson n := by
  have hlist : Decoder.list Decoder.text (Draft.ofJson n.toJson) = .ok n.toList :=
    takes_strings n.toList
  rw [Takes, names, hlist]
  exact congrArg Except.ok (ofNames_toList n)

theorem pairs_ofJson (pairs : List (String × String)) :
    Decoder.pairs (Draft.ofJsonFields (pairs.map fun q => (q.1, Json.string q.2))) = .ok pairs := by
  induction pairs with
  | nil => rfl
  | cons q pairs ih =>
    rw [List.map_cons, Draft.ofJsonFields, Decoder.pairs, ih]
    rfl

theorem Parameters.takes (p : Parameters) : Decoder.parameters.Takes p.toJson p := by
  have hkeys : ((p.toList.map fun q => (q.1, Json.string q.2)).map (·.1)).Nodup := by
    have hdistinct := Std.ExtTreeMap.distinct_keys_toList (t := p)
    rw [List.map_map]
    refine List.pairwise_map.mpr (hdistinct.imp fun {q q'} hne heq => hne ?_)
    exact Std.LawfulEqCmp.compare_eq_iff_eq.mpr heq
  obtain ⟨all, heq, horder, hall⟩ := ofFields_eq hkeys
  -- the fields are texts, so they are those of a list of pairs
  obtain ⟨pairs, rfl⟩ : all ∈ Set.range
      (List.map fun q : String × String => (q.1, Json.string q.2)) := by
    rw [Set.range_list_map]
    intro f hf
    obtain ⟨q, -, hq⟩ := List.mem_map.mp ((hall f).mp hf)
    exact ⟨q, hq⟩
  have hmem : ∀ q, q ∈ pairs ↔ q ∈ p.toList := by
    intro q
    have hinj : Function.Injective fun q : String × String => (q.1, Json.string q.2) := by
      rintro ⟨k, v⟩ ⟨k', v'⟩ hq
      simpa using hq
    have h := hall (q.1, .string q.2)
    rwa [List.mem_map_of_injective hinj, List.mem_map_of_injective hinj] at h
  have hnodup : (pairs.map (·.1)).Nodup := by
    have h := horder.nodup
    rwa [List.map_map] at h
  show parameters (Draft.ofJson p.toJson) = .ok p
  have hjson : p.toJson = .object (pairs.map fun q => (q.1, Json.string q.2)) := heq
  rw [hjson]
  show parameters (.object (Draft.ofJsonFields _) true) = .ok p
  rw [parameters, pairs_ofJson]
  exact congrArg Except.ok (ofPairs_eq hnodup hmem)

/-! ## The records of a deployment -/

theorem Provider.takes (p : Provider) : Provider.read.Takes p.toJson p := by
  refine takes_of_has (ofFields_has (by simp)) fun slots hs => ?_
  simp only [List.forall_mem_cons] at hs
  obtain ⟨hpublisher, hname, hversion, -⟩ := hs
  exact (((reads_required hpublisher (takes_text _)).map Provider.mk).seq
    (reads_required hname (takes_text _))).seq (reads_required hversion (takes_text _))

theorem Diagnostic.takes (d : Diagnostic) : Diagnostic.read.Takes d.toJson d := by
  have hlevel : (Decoder.word DiagnosticLevel.ofText?).Takes (.string d.level.text) d.level := by
    cases d.level <;> rfl
  refine takes_of_has (ofFields_has (by simp)) fun slots hs => ?_
  simp only [List.forall_mem_cons] at hs
  obtain ⟨hl, hmessage, -⟩ := hs
  exact ((reads_required hl hlevel).map Diagnostic.mk).seq (reads_required hmessage (takes_text _))

theorem takes_diagnostics (ds : List Diagnostic) :
    (Decoder.list Diagnostic.read).Takes (.array (ds.map Diagnostic.toJson)) ds :=
  takes_list_self fun d _ => d.takes

/-- A priority is a half word with a sign. -/
def Assignment.Fits (a : Assignment) : Prop :=
  -2147483648 ≤ a.priority ∧ a.priority ≤ 2147483647

theorem Assignment.takes {a : Assignment} (h : a.Fits) : Assignment.read.Takes a.toJson a := by
  refine takes_of_has (ofFields_has (by simp)) fun slots hs => ?_
  simp only [List.forall_mem_cons] at hs
  obtain ⟨hgroup, hpriority, hdiagnostics, -⟩ := hs
  exact (((reads_required hgroup (takes_text _)).map Assignment.mk).seq
    (reads_required hpriority (takes_integer h))).seq
    (reads_defaulted hdiagnostics (takes_diagnostics _))

namespace Deployment

/-- The fields of the document of a deployment. -/
def fields (d : Deployment) : List (String × Json) :=
  [("id", .string d.id), ("provider", d.provider.toJson),
    ("function_url", Json.ofOption .string d.functionUrl),
    ("diagnostics", .array (d.diagnostics.map Diagnostic.toJson)),
    ("target_group_assignment", Json.ofOption Assignment.toJson d.assignment)]

theorem takes {d : Deployment} {doc : Json} (h : doc.Has d.fields)
    (ha : ∀ a, d.assignment = some a → a.Fits) : Deployment.read.Takes doc d := by
  have hurl : (Decoder.nullable text).Takes (ofOption .string d.functionUrl) d.functionUrl :=
    takes_nullable_self (fun s _ => takes_text s) (by simp)
  have hassigned : (Decoder.nullable Assignment.read).Takes
      (ofOption Assignment.toJson d.assignment) d.assignment :=
    takes_nullable_self (fun a hd => Assignment.takes (ha a hd))
      (by simp [Assignment.toJson, ofFields])
  refine takes_of_has h fun slots hs => ?_
  simp only [fields, List.forall_mem_cons] at hs
  obtain ⟨hid, hprovider, hfunction, hdiagnostics, hassignment, -⟩ := hs
  exact (((((reads_required hid (takes_text _)).map Deployment.mk).seq
    (reads_required hprovider (Provider.takes _))).seq (reads_nullable hfunction hurl)).seq
    (reads_defaulted hdiagnostics (takes_diagnostics _))).seq (reads_nullable hassignment hassigned)

end Deployment

/-! ## The records of a preflight -/

theorem Target.takes (t : Target) : Target.read.Takes t.toJson t := by
  refine takes_of_has (ofFields_has (by simp)) fun slots hs => ?_
  simp only [List.forall_mem_cons] at hs
  obtain ⟨hid, htargetGroup, hrule, hfields, hgroups, hreviewers, -⟩ := hs
  exact ((((((reads_required hid (takes_text _)).map Target.mk).seq
    (reads_required htargetGroup (takes_text _))).seq (reads_required hrule (takes_text _))).seq
    (reads_defaulted hfields t.fields.takes)).seq (reads_defaulted hgroups t.groups.takes)).seq
    (reads_defaulted hreviewers t.reviewers.takes)

theorem PreflightGroup.takes (g : PreflightGroup) : PreflightGroup.read.Takes g.toJson g := by
  have hlist := takes_list_self fun t (_ : t ∈ g.targets) => t.takes
  refine takes_of_has (ofFields_has (by simp)) fun slots hs => ?_
  simp only [List.forall_mem_cons] at hs
  obtain ⟨hid, hrule, htargets, -⟩ := hs
  exact (((reads_required hid (takes_text _)).map PreflightGroup.mk).seq
    (reads_required hrule (takes_text _))).seq (reads_required htargets hlist)

namespace Preflight

/-- The fields of the document of a preflight. -/
def fields (p : Preflight) : List (String × Json) :=
  [("id", .string p.id), ("user_id", .string p.userId),
    ("requested_targets", Json.ofStrings p.requestedTargets),
    ("access_groups", .array (p.accessGroups.map PreflightGroup.toJson)),
    ("created_at", p.createdAt.toDate),
    ("consumed_at", Json.ofOption Instant.toDate p.consumedAt)]

/-- The preflight without what is finer than a millisecond. -/
def floorMillis (p : Preflight) : Preflight :=
  { p with
    createdAt := p.createdAt.floorMillis
    consumedAt := p.consumedAt.map Instant.floorMillis }

/-- The preflight has times that the program can have. -/
structure Valid (p : Preflight) : Prop where
  created : p.createdAt.Valid
  consumed : ∀ t, p.consumedAt = some t → t.Valid

theorem takes {p : Preflight} {doc : Json} (h : doc.Has p.fields) (hp : p.Valid) :
    Preflight.read.Takes doc p.floorMillis := by
  have hlist := takes_list_self fun g (_ : g ∈ p.accessGroups) => g.takes
  have hused := takes_nullable (b := Instant.floorMillis)
    (fun t ht => Instant.takes_date (hp.consumed t ht)) Instant.toDate_ne_null
  refine takes_of_has h fun slots hs => ?_
  simp only [fields, List.forall_mem_cons] at hs
  obtain ⟨hid, huser, htargets, hgroups, hcreated, hconsumed, -⟩ := hs
  exact ((((((reads_required hid (takes_text _)).map Preflight.mk).seq
    (reads_required huser (takes_text _))).seq (reads_required htargets (takes_strings _))).seq
    (reads_required hgroups hlist)).seq
    (reads_required hcreated (Instant.takes_date hp.created))).seq
    (reads_defaulted hconsumed hused)

end Preflight

end AccessGrants
