import AccessGrants.Proofs.Alone.Attain
import AccessGrants.Proofs.Preflights.Grouping
import AccessGrants.Proofs.Store.Rows
import Mathlib.Data.List.Forall2

/-!
# AccessGrants.Proofs.Preflights.DraftOutcome

What becomes of a preflight that nothing interferes with, with authorization by groups.

* `MemoryStore.Requestable` — what a user may request.
* `Drafted`                 — the preflight that comes of resolved targets.
* `DraftOutcome`            — in which order preflights are rejected, and what a good one leaves.
* `resolve_requestable`, `resolve_refused` — the targets are read up to the first one that the user may
                              not request.
* `draft_outcome`           — every preflight has this outcome.
-/

namespace AccessGrants

/-- A user may request a cached target that is visible to the user. -/
def MemoryStore.Requestable (s : MemoryStore) (user : User) (id : String) : Prop :=
  ∃ t, s.targets[id]? = some t ∧ t.visibleTo user.groups = true

/-- The preflight of a user for resolved targets. Its groups have the distinct rules of the targets in
the order in which they are first seen, and every target is in the one group of its rule. -/
structure Drafted (user : User) (ids : List String) (targets : List Target) (now : Instant)
    (p : Preflight) : Prop where
  owner : p.userId = user.id
  requested : p.requestedTargets = ids
  rules : p.accessGroups.map (·.accessRule) = (targets.map (·.accessRule)).eraseDups
  members : ∀ g ∈ p.accessGroups, g.targets = targets.filter fun t => t.accessRule = g.accessRule
  distinct : (p.accessGroups.map (·.accessRule)).Nodup
  inhabited : ∀ g ∈ p.accessGroups, g.targets ≠ []
  once : ∀ t ∈ targets, ∃! g, g ∈ p.accessGroups ∧ t ∈ g.targets
  created : p.createdAt = now
  unused : p.consumedAt = none

/-- What is answered to a list of requested ids, and what is stored then. -/
structure DraftOutcome (user : User) (ids : List String) (now : Instant) (s s' : MemoryStore)
    (answer : Except ServiceError Preflight) : Prop where
  empty : ids = [] → answer = .error (.invalidRequest "at least one target must be requested")
  repeated : ¬ ids.Nodup → answer = .error .duplicateTargets
  refused : ids.Nodup → (∃ id ∈ ids, ¬ s.Requestable user id) → ∃ before id after,
    ids = before ++ id :: after ∧ (∀ i ∈ before, s.Requestable user i) ∧ ¬ s.Requestable user id ∧
    answer = .error (.unauthorisedTarget id)
  drafted : ids ≠ [] → ids.Nodup → (∀ id ∈ ids, s.Requestable user id) → ∃ p targets,
    answer = .ok p ∧ List.Forall₂ (fun id t => s.targets[id]? = some t) ids targets ∧
    Drafted user ids targets now p ∧ s' = { s with preflights := s.preflights.insert p.id p }
  kept : ∀ e, answer = .error e → s' = s

namespace DraftOutcome

variable {user : User} {ids before after : List String} {id : String} {now : Instant}
  {s s' : MemoryStore} {answer : Except ServiceError Preflight} {p : Preflight} {targets : List Target}

theorem of_empty : DraftOutcome user [] now s s
    (.error (.invalidRequest "at least one target must be requested")) where
  empty _ := rfl
  repeated h := absurd List.nodup_nil h
  refused := by simp
  drafted h := absurd rfl h
  kept _ _ := rfl

theorem of_repeated (h : ¬ ids.Nodup) : DraftOutcome user ids now s s (.error .duplicateTargets) where
  empty hnil := by
    rw [hnil] at h
    exact absurd List.nodup_nil h
  repeated _ := rfl
  refused hn := absurd hn h
  drafted _ hn := absurd hn h
  kept _ _ := rfl

theorem of_refused (hn : (before ++ id :: after).Nodup) (hbefore : ∀ i ∈ before, s.Requestable user i)
    (hid : ¬ s.Requestable user id) :
    DraftOutcome user (before ++ id :: after) now s s (.error (.unauthorisedTarget id)) where
  empty := by simp
  repeated h := absurd hn h
  refused _ _ := ⟨before, id, after, rfl, hbefore, hid, rfl⟩
  drafted _ _ h := absurd (h id (by simp)) hid
  kept _ _ := rfl

theorem of_drafted (hne : ids ≠ []) (hn : ids.Nodup) (h : ∀ id ∈ ids, s.Requestable user id)
    (hread : List.Forall₂ (fun id t => s.targets[id]? = some t) ids targets)
    (hp : Drafted user ids targets now p)
    (hs : s' = { s with preflights := s.preflights.insert p.id p }) :
    DraftOutcome user ids now s s' (.ok p) where
  empty hnil := absurd hnil hne
  repeated hnot := absurd hn hnot
  refused _ := fun ⟨id, hid, hnot⟩ => absurd (h id hid) hnot
  drafted _ _ _ := ⟨p, targets, rfl, hread, hp, hs⟩
  kept := nofun

theorem succeeds_iff (h : DraftOutcome user ids now s s' answer) :
    (∃ p, answer = .ok p) ↔ ids ≠ [] ∧ ids.Nodup ∧ ∀ id ∈ ids, s.Requestable user id := by
  constructor
  · rintro ⟨p, rfl⟩
    have hne : ids ≠ [] := fun hnil => by cases h.empty hnil
    have hn : ids.Nodup := by_contra fun hnot => by cases h.repeated hnot
    refine ⟨hne, hn, fun id hid => by_contra fun hnot => ?_⟩
    obtain ⟨_, _, _, -, -, -, he⟩ := h.refused hn ⟨id, hid, hnot⟩
    cases he
  · rintro ⟨hne, hn, hall⟩
    obtain ⟨p, targets, hp, -⟩ := h.drafted hne hn hall
    exact ⟨p, hp⟩

end DraftOutcome

namespace Preflights

open Service Preflight

variable {a : GroupAuthorizer} {allowed : Moment → Prop} {user : User} {ids : List String}
  {s : MemoryStore} {past : Past}

/-! ## What may be requested -/

theorem any_visibleTo_iff {id : String} :
    (s.targets[id]?).any (·.visibleTo user.groups) = true ↔ s.Requestable user id :=
  Option.any_eq_true _ _

theorem mayRequest_attains (user : User) (id : String) :
    Attains (α := no_index (Call.Reply (.mayRequest user id))) allowed
      ((call (.mayRequest user id)).locally a)
      (fun s' _ answer => s' = s ∧ answer = .ok ((s.targets[id]?).any (·.visibleTo user.groups)))
      (fun _ _ _ => False) s past := by
  rw [locally_call]
  show Attains allowed (ofResources (GroupAuthorizer.mayRequest user id)) _ _ _ _
  rw [GroupAuthorizer.mayRequest, ofResources_bind, attains_bind]
  exact attains_ask_store ⟨rfl, rfl⟩

/-- A target that the user may request is read, and then the others are. -/
theorem resolve_cons {id : String} {rest : List String} {t : Target} (ht : s.targets[id]? = some t)
    (hvisible : t.visibleTo user.groups = true) {ok : MemoryStore → Past → List Target → Prop}
    {err : MemoryStore → Past → ServiceError → Prop}
    (hrest : ∀ past, ((resolve user rest).locally a).Attains allowed
      (fun s' past' targets => ok s' past' (t :: targets)) err s past) :
    ((resolve user (id :: rest)).locally a).Attains allowed ok err s past := by
  rw [resolve, locally_bind, attains_bind]
  refine (mayRequest_attains user id).mono (fun s₁ past₁ answer h₁ => ?_) fun _ _ _ => False.elim
  obtain ⟨rfl, rfl⟩ := h₁
  rw [any_visibleTo_iff.mpr ⟨t, ht, hvisible⟩, verdict_ok, pure_bind]
  simp only [if_true, locally_bind, locally_store, locally_orNotFound, locally_pure, attains_bind]
  refine attains_store (a := some t) (congrArg Except.ok ht) ?_
  exact hrest _

theorem resolve_requestable (h : ∀ id ∈ ids, s.Requestable user id) :
    ((resolve user ids).locally a).Attains allowed
      (fun s' _ targets => s' = s ∧ List.Forall₂ (fun id t => s.targets[id]? = some t) ids targets)
      (fun _ _ _ => False) s past := by
  induction ids generalizing past with
  | nil => exact ⟨rfl, .nil⟩
  | cons id rest ih =>
    obtain ⟨t, ht, hvisible⟩ := h id List.mem_cons_self
    refine resolve_cons ht hvisible fun past => ?_
    exact (ih fun i hi => h i (List.mem_cons_of_mem _ hi)).mono
      (fun s' _ targets hend => ⟨hend.1, .cons ht hend.2⟩) fun _ _ _ => False.elim

/-- The first target that the user may not request is the one that is named. -/
theorem resolve_refused {before after : List String} {id : String}
    (hbefore : ∀ i ∈ before, s.Requestable user i) (hid : ¬ s.Requestable user id) :
    ((resolve user (before ++ id :: after)).locally a).Attains allowed (fun _ _ _ => False)
      (fun s' _ e => s' = s ∧ e = .unauthorisedTarget id) s past := by
  induction before generalizing past with
  | nil =>
    rw [List.nil_append, resolve, locally_bind, attains_bind]
    refine (mayRequest_attains user id).mono (fun s₁ past₁ answer h₁ => ?_) fun _ _ _ => False.elim
    obtain ⟨rfl, rfl⟩ := h₁
    have hhidden : (s₁.targets[id]?).any (·.visibleTo user.groups) = false :=
      Bool.eq_false_iff.mpr fun hany => hid (any_visibleTo_iff.mp hany)
    rw [hhidden, verdict_ok, pure_bind]
    simp only [Bool.false_eq_true, if_false, locally_bind, locally_count, locally_throw, attains_bind]
    exact attains_count ⟨rfl, rfl⟩
  | cons i before ih =>
    obtain ⟨t, ht, hvisible⟩ := hbefore i List.mem_cons_self
    exact resolve_cons ht hvisible fun past => ih fun j hj => hbefore j (List.mem_cons_of_mem _ hj)

/-! ## The draft -/

theorem nameGroups_locally (groups : List (String × List Target)) :
    (nameGroups groups).locally a = nameGroups groups := by
  induction groups with
  | nil => rfl
  | cons g groups ih => simp only [nameGroups, locally_bind, locally_freshId, locally_pure, ih]

theorem nameGroups_attains (groups : List (String × List Target)) :
    (nameGroups groups).Attains allowed
      (fun s' _ named => s' = s ∧ named.map (fun g => (g.accessRule, g.targets)) = groups)
      (fun _ _ _ => False) s past := by
  induction groups generalizing past with
  | nil => exact ⟨rfl, rfl⟩
  | cons g groups ih =>
    rw [nameGroups, attains_bind]
    refine attains_freshId fun id => ?_
    rw [attains_bind]
    refine ih.mono (fun s' past' named hend => ?_) fun _ _ _ => False.elim
    exact ⟨hend.1, congrArg (g :: ·) hend.2⟩

theorem ids_of_targets (hkeyed : MemoryStore.Keyed Target.id s.targets) {targets : List Target}
    (h : List.Forall₂ (fun id t => s.targets[id]? = some t) ids targets) :
    targets.map (·.id) = ids := by
  induction h with
  | nil => rfl
  | cons ht _ ih => rw [List.map_cons, ih, hkeyed _ _ ht]

theorem exists_group {targets : List Target} {groups : List PreflightGroup} {t : Target}
    (hdistinct : (groups.map (·.accessRule)).Nodup)
    (hmembers : ∀ g ∈ groups, g.targets = targets.filter fun t => t.accessRule = g.accessRule)
    (ht : t ∈ targets) (hrule : t.accessRule ∈ groups.map (·.accessRule)) :
    ∃! g, g ∈ groups ∧ t ∈ g.targets := by
  obtain ⟨g, hg, hgr⟩ := List.mem_map.mp hrule
  refine ⟨g, ⟨hg, ?_⟩, ?_⟩
  · rw [hmembers g hg]
    exact List.mem_filter.mpr ⟨ht, decide_eq_true hgr.symm⟩
  · rintro g' ⟨hg', hin⟩
    rw [hmembers g' hg'] at hin
    have hgr' := of_decide_eq_true (List.mem_filter.mp hin).2
    exact List.inj_on_of_nodup_map hdistinct hg' hg (hgr'.symm.trans hgr.symm)

/-- The groups of a preflight are the groups by rule, with their names. -/
theorem drafted_of_named {targets : List Target} {named : List PreflightGroup} (id : String)
    (now : Instant) (hids : targets.map (·.id) = ids)
    (h : named.map (fun g => (g.accessRule, g.targets)) = byRule targets) :
    Drafted user ids targets now (Preflight.create id user.id targets named now) := by
  have hgrouped := byRule_grouped targets
  have hrules : named.map (·.accessRule) = (byRule targets).map (·.1) := by
    rw [← h, List.map_map]
    rfl
  have hmem : ∀ g ∈ named, (g.accessRule, g.targets) ∈ byRule targets := fun g hg => by
    rw [← h]
    exact List.mem_map_of_mem hg
  have hdistinct : (named.map (·.accessRule)).Nodup := by
    rw [hrules]
    exact hgrouped.rules
  have hmembers : ∀ g ∈ named, g.targets = targets.filter fun t => t.accessRule = g.accessRule :=
    fun g hg => hgrouped.members _ (hmem g hg)
  have hcovered : ∀ t ∈ targets, t.accessRule ∈ named.map (·.accessRule) := by
    rw [hrules]
    exact hgrouped.covered
  exact ⟨rfl, hids, hrules.trans (byRule_rules targets), hmembers, hdistinct,
    fun g hg => byRule_ne_nil (hmem g hg),
    fun t ht => exists_group hdistinct hmembers ht (hcovered t ht), rfl, rfl⟩

theorem draft_attains {now : Instant} {targets : List Target} (hids : targets.map (·.id) = ids) :
    ((draft user.id targets now).locally a).Attains allowed
      (fun s' _ p => s' = s ∧ Drafted user ids targets now p) (fun _ _ _ => False) s past := by
  rw [draft, locally_bind, nameGroups_locally, attains_bind]
  refine (nameGroups_attains _).mono (fun s' past' named hnamed => ?_) fun _ _ _ => False.elim
  obtain ⟨rfl, hnamed⟩ := hnamed
  rw [locally_bind, locally_freshId, attains_bind]
  exact attains_freshId fun id => ⟨rfl, drafted_of_named id now hids hnamed⟩

/-! ## The operation -/

/-- The preflight has its outcome, whether it is drafted or refused. -/
def Drafts (a : GroupAuthorizer) (allowed : Moment → Prop) (user : User) (ids : List String)
    (s : MemoryStore) (past : Past) : Prop :=
  ((createPreflight user ids).locally a).EndsWith allowed
    (fun now s' _ => DraftOutcome user ids now s s') s past

theorem drafts_of_empty {m : Moment} (hm : allowed m) : Drafts a allowed user [] s past := by
  rw [Drafts, EndsWith, createPreflight]
  simp only [List.isEmpty_nil, if_true, locally_bind, locally_count, locally_throw, attains_bind]
  exact attains_count ⟨m, hm, .of_empty⟩

theorem drafts_of_repeated {m : Moment} (hm : allowed m) (h : ¬ ids.Nodup) :
    Drafts a allowed user ids s past := by
  have hne : ids ≠ [] := by
    rintro rfl
    exact h List.nodup_nil
  rw [Drafts, EndsWith, createPreflight, if_neg (by simpa using hne), if_pos h]
  simp only [locally_bind, locally_count, locally_throw, attains_bind]
  exact attains_count ⟨m, hm, .of_repeated h⟩

theorem drafts_of_refused {before after : List String} {id : String} {m : Moment} (hm : allowed m)
    (hn : (before ++ id :: after).Nodup) (hbefore : ∀ i ∈ before, s.Requestable user i)
    (hid : ¬ s.Requestable user id) : Drafts a allowed user (before ++ id :: after) s past := by
  rw [Drafts, EndsWith, createPreflight, if_neg (by simp), if_neg (not_not_intro hn)]
  simp only [locally_bind, attains_bind]
  refine (resolve_refused hbefore hid).mono (fun _ _ _ => False.elim) fun s' _ e hend => ?_
  obtain ⟨rfl, rfl⟩ := hend
  exact ⟨m, hm, .of_refused hn hbefore hid⟩

theorem drafts_of_requestable (hkeyed : MemoryStore.Keyed Target.id s.targets) (hne : ids ≠ [])
    (hn : ids.Nodup) (h : ∀ id ∈ ids, s.Requestable user id) : Drafts a allowed user ids s past := by
  rw [Drafts, EndsWith, createPreflight, if_neg (by simpa using hne), if_neg (not_not_intro hn)]
  simp only [locally_bind, locally_now, locally_store, locally_count, locally_pure, attains_bind]
  refine (resolve_requestable h).mono (fun s₁ past₁ targets hread => ?_) fun _ _ _ => False.elim
  obtain ⟨rfl, hread⟩ := hread
  refine attains_now fun m hm => ?_
  refine (draft_attains (ids_of_targets hkeyed hread)).mono (fun s₂ past₂ p hp => ?_)
    fun _ _ _ => False.elim
  obtain ⟨rfl, hp⟩ := hp
  exact attains_store rfl (attains_count ⟨m, hm, .of_drafted hne hn h hread hp rfl⟩)

theorem exists_refused (h : ∃ id ∈ ids, ¬ s.Requestable user id) : ∃ before id after,
    ids = before ++ id :: after ∧ (∀ i ∈ before, s.Requestable user i) ∧ ¬ s.Requestable user id := by
  have hhidden : ∀ id, (!(s.targets[id]?).any (·.visibleTo user.groups)) = true ↔
      ¬ s.Requestable user id := fun id => by
    rw [Bool.not_eq_true', Bool.eq_false_iff, ne_eq, any_visibleTo_iff]
  obtain ⟨id, hid, hnot⟩ := h
  obtain ⟨first, hfirst⟩ := Option.isSome_iff_exists.mp <|
    List.find?_isSome (p := fun id => !(s.targets[id]?).any (·.visibleTo user.groups)).mpr
      ⟨id, hid, (hhidden id).mpr hnot⟩
  obtain ⟨hp, before, after, hsplit, hbefore⟩ := List.find?_eq_some_iff_append.mp hfirst
  refine ⟨before, first, after, hsplit, fun i hi => ?_, (hhidden first).mp hp⟩
  have hseen := hbefore i hi
  rw [Bool.not_not] at hseen
  exact any_visibleTo_iff.mp hseen

theorem exists_outcome (a : GroupAuthorizer) (user : User) (ids : List String) {s : Session}
    (hkeyed : MemoryStore.Keyed Target.id s.store.targets) (moments : Nat → Moment) :
    ∃ answer s', ((createPreflight user ids).locally a).run.finish moments s = (some answer, s') ∧
      ∃ n, DraftOutcome user ids (moments n).clock s.store s'.store answer := by
  have hm : ∃ n, moments 0 = moments n := ⟨0, rfl⟩
  have hdrafts : Drafts a (fun m => ∃ n, m = moments n) user ids s.store s.past := by
    by_cases hne : ids = []
    · rw [hne]
      exact drafts_of_empty hm
    by_cases hn : ids.Nodup
    · by_cases hall : ∀ id ∈ ids, s.store.Requestable user id
      · exact drafts_of_requestable hkeyed hne hn hall
      · obtain ⟨before, id, after, rfl, hbefore, hid⟩ := exists_refused (by simpa using hall)
        exact drafts_of_refused hm hn hbefore hid
    · exact drafts_of_repeated hm hn
  exact hdrafts.finish

/-- A preflight that nothing interferes with has one outcome, given by the cached targets and by the
time that the clock shows once. -/
theorem draft_outcome (a : GroupAuthorizer) (user : User) (ids : List String) (pageSize : Nat)
    (calls : List StoreCall) (past : Past) (moments : Nat → Moment) :
    ∃ answer s', ((createPreflight user ids).locally a).run.finish moments
        ⟨(MemoryStore.empty pageSize).run calls, past⟩ = (some answer, s') ∧
      ∃ n, DraftOutcome user ids (moments n).clock ((MemoryStore.empty pageSize).run calls)
        s'.store answer :=
  exists_outcome a user ids (MemoryStore.run_filed pageSize calls).targets moments

end Preflights

end AccessGrants
