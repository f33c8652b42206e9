import AccessGrants.Service.Requests
import Mathlib.Data.List.Nodup

/-!
# AccessGrants.Proofs.Requests.Options

The options of a submission. They are looked through in order, and the first one that does not go with
those before it is reported.

* `Accepted`    — options that go with a preflight and with each other.
* `Objection`   — what there is to say against an option after others, and its wording.
* `optionsFault?_eq_none_iff`, `exists_objection` — the scan finds an objection unless all is accepted.
* `durationOf_named`, `durationOf_unnamed` — the durations that are looked up later.
-/

namespace AccessGrants.Requests

/-- Options for different groups of a preflight, with durations that may be asked for. -/
structure Accepted (policy : GrantPolicy) (p : Preflight) (options : List GroupOption) : Prop where
  known : ∀ o ∈ options, ∃ g ∈ p.accessGroups, g.id = o.id
  distinct : (options.map (·.id)).Nodup
  admitted : ∀ o ∈ options, ∀ d, o.durationSeconds = some d → 1 ≤ d ∧ d ≤ policy.maxDuration

/-- What there is to say against an option that comes after others. Of several objections the first
counts. -/
inductive Objection (policy : GrantPolicy) (p : Preflight) (before : List GroupOption)
    (o : GroupOption) : String → Prop
  | unknown (h : ∀ g ∈ p.accessGroups, g.id ≠ o.id) :
    Objection policy p before o
      ("access group " ++ o.id ++ " is not part of preflight " ++ p.id)
  | repeated (hknown : ∃ g ∈ p.accessGroups, g.id = o.id) (h : ∃ b ∈ before, b.id = o.id) :
    Objection policy p before o
      ("access group " ++ o.id ++ " has more than one set of options")
  | duration (hknown : ∃ g ∈ p.accessGroups, g.id = o.id) (hnew : ∀ b ∈ before, b.id ≠ o.id)
      (d : Int) (hd : o.durationSeconds = some d) (h : d < 1 ∨ policy.maxDuration < d) :
    Objection policy p before o
      ("duration for access group " ++ o.id ++ " must be between 1 and " ++
        toString policy.maxDuration ++ " seconds")

variable {policy : GrantPolicy} {p : Preflight} {before options : List GroupOption} {o : GroupOption}
  {reason : String}

theorem accepted_nil : Accepted policy p [] :=
  ⟨by simp, List.nodup_nil, by simp⟩

theorem accepted_concat : Accepted policy p (before ++ [o]) ↔ Accepted policy p before ∧
    (∃ g ∈ p.accessGroups, g.id = o.id) ∧ (∀ b ∈ before, b.id ≠ o.id) ∧
    ∀ d, o.durationSeconds = some d → 1 ≤ d ∧ d ≤ policy.maxDuration := by
  have hids : ((before ++ [o]).map (·.id)).Nodup ↔
      (before.map (·.id)).Nodup ∧ ∀ b ∈ before, b.id ≠ o.id := by
    simp [List.nodup_append]
  constructor
  · rintro ⟨hknown, hdistinct, hadmitted⟩
    obtain ⟨hn, hnew⟩ := hids.mp hdistinct
    refine ⟨⟨fun b hb => hknown b ?_, hn, fun b hb => hadmitted b ?_⟩, hknown o ?_, hnew, hadmitted o ?_⟩
    · exact List.mem_append_left _ hb
    · exact List.mem_append_left _ hb
    · exact List.mem_append_right _ (List.mem_singleton.mpr rfl)
    · exact List.mem_append_right _ (List.mem_singleton.mpr rfl)
  · rintro ⟨h, hknown, hnew, hadmitted⟩
    refine ⟨fun b hb => ?_, hids.mpr ⟨h.distinct, hnew⟩, fun b hb => ?_⟩
    · rcases List.mem_append.mp hb with hb | hb
      · exact h.known b hb
      · exact List.mem_singleton.mp hb ▸ hknown
    · rcases List.mem_append.mp hb with hb | hb
      · exact h.admitted b hb
      · exact List.mem_singleton.mp hb ▸ hadmitted

theorem Accepted.of_append {after : List GroupOption} (h : Accepted policy p (before ++ after)) :
    Accepted policy p before where
  known b hb := h.known b (List.mem_append_left _ hb)
  distinct := h.distinct.sublist ((List.sublist_append_left before after).map _)
  admitted b hb := h.admitted b (List.mem_append_left _ hb)

theorem admits_iff {d : Int} : policy.admits d = true ↔ 1 ≤ d ∧ d ≤ policy.maxDuration := by
  simp only [GrantPolicy.admits, Bool.and_eq_true, decide_eq_true_eq]
  omega

theorem accessGroup?_isNone : (p.accessGroup? o.id).isNone = true ↔
    ∀ g ∈ p.accessGroups, g.id ≠ o.id := by
  simp [Preflight.accessGroup?]

/-- The scan has nothing to say against an option that is accepted, and an objection to any other. -/
theorem optionFault?_cases (h : Accepted policy p before) :
    optionFault? policy p before o = none ∧ Accepted policy p (before ++ [o]) ∨
      ∃ reason, optionFault? policy p before o = some reason ∧ Objection policy p before o reason ∧
        ¬ Accepted policy p (before ++ [o]) := by
  rw [accepted_concat, optionFault?]
  split
  · rename_i hnone
    have hunknown := accessGroup?_isNone.mp hnone
    refine .inr ⟨_, rfl, .unknown hunknown, fun ⟨_, ⟨g, hg, hid⟩, _⟩ => hunknown g hg hid⟩
  rename_i hsome
  have hknown : ∃ g ∈ p.accessGroups, g.id = o.id := by
    simpa using mt accessGroup?_isNone.mpr hsome
  split
  · rename_i hany
    have hrepeated : ∃ b ∈ before, b.id = o.id := by simpa using hany
    refine .inr ⟨_, rfl, .repeated hknown hrepeated, fun ⟨_, _, hnew, _⟩ => ?_⟩
    obtain ⟨b, hb, hid⟩ := hrepeated
    exact hnew b hb hid
  rename_i hany
  have hnew : ∀ b ∈ before, b.id ≠ o.id := by simpa using hany
  split
  · rename_i hout
    obtain ⟨d, hd, hout⟩ := (Option.any_eq_true _ _).mp hout
    have hout : ¬ (1 ≤ d ∧ d ≤ policy.maxDuration) := by
      rw [← admits_iff]
      simpa using hout
    refine .inr ⟨_, rfl, .duration hknown hnew d hd (by omega), fun ⟨_, _, _, hin⟩ => ?_⟩
    exact hout (hin d hd)
  · rename_i hin
    refine .inl ⟨rfl, h, hknown, hnew, fun d hd => ?_⟩
    simpa [hd, admits_iff] using hin

theorem optionsFault?_eq_none_iff (h : Accepted policy p before) :
    optionsFault? policy p before options = none ↔ Accepted policy p (before ++ options) := by
  induction options generalizing before with
  | nil => simp [optionsFault?, h]
  | cons o rest ih =>
    rw [List.append_cons, optionsFault?]
    rcases optionFault?_cases (o := o) h with ⟨hnone, hnext⟩ | ⟨reason, hfault, -, hnot⟩
    · rw [hnone]
      exact ih hnext
    · rw [hfault]
      exact iff_of_false nofun fun hall => hnot hall.of_append

theorem admits_of_optionsFault? (h : optionsFault? policy p [] options = none) :
    ∀ o ∈ options, ∀ d, o.durationSeconds = some d → policy.admits d = true :=
  fun o ho d hd =>
    admits_iff.mpr (((optionsFault?_eq_none_iff accepted_nil).mp h).admitted o ho d hd)

/-- The reported option is the first one that is not accepted after those before it. -/
theorem exists_objection (h : Accepted policy p before)
    (hfault : optionsFault? policy p before options = some reason) :
    ∃ fine o after, options = fine ++ o :: after ∧ Accepted policy p (before ++ fine) ∧
      Objection policy p (before ++ fine) o reason := by
  induction options generalizing before with
  | nil => cases hfault
  | cons o rest ih =>
    rw [optionsFault?] at hfault
    rcases optionFault?_cases (o := o) h with ⟨hnone, hnext⟩ | ⟨reason', hfirst, hobjection, -⟩
    · rw [hnone] at hfault
      obtain ⟨fine, o', after, rfl, hfine, hobjection⟩ := ih hnext hfault
      refine ⟨o :: fine, o', after, rfl, ?_, ?_⟩
      · rwa [List.append_cons]
      · rwa [List.append_cons]
    · rw [hfirst] at hfault
      cases hfault
      exact ⟨[], o, rest, rfl, by simpa using h, by simpa using hobjection⟩

theorem durationOf_named (h : Accepted policy p options) (ho : o ∈ options) :
    durationOf policy options o.id = o.durationSeconds.getD policy.defaultDuration := by
  have hfind : options.find? (fun b => b.id = o.id) = some o := by
    cases hb : options.find? fun b => b.id = o.id with
    | none => exact absurd (decide_eq_true rfl) (List.find?_eq_none.mp hb o ho)
    | some b =>
      have hid : b.id = o.id := by simpa using List.find?_some hb
      rw [List.inj_on_of_nodup_map h.distinct (List.mem_of_find?_eq_some hb) ho hid]
  rw [durationOf, hfind]
  rfl

theorem durationOf_unnamed {id : String} (h : ∀ o ∈ options, o.id ≠ id) :
    durationOf policy options id = policy.defaultDuration := by
  have hfind : options.find? (fun o => o.id = id) = none := by simpa using h
  rw [durationOf, hfind]
  rfl

end AccessGrants.Requests
