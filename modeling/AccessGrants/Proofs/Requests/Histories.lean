import AccessGrants.Proofs.Concurrency.Rules

/-!
# AccessGrants.Proofs.Requests.Histories

What the whole past of an operation looks like, given that every call kept the rule.

* `Drafting`, `Submitting`, `Silent` — what is known of the past of a drafting operation, of a
                   submission and of every other operation.
* `kept_drafted` — one preflight is stored, with the ids that were handed out for it.
* `kept_asked`   — the workflow is asked about the groups of that preflight, in order.
-/

namespace AccessGrants

open Exchange Interaction

/-- An exchange that tells nothing of ids, preflights, grants and written requests. -/
def Mute (e : Exchange Call.Reply) : Prop :=
  e.issued? = none ∧ e.drafted? = none ∧ e.claimed? = none ∧ e.asked? = none ∧ e.stored? = none

theorem mute_of_isQuiet {c : Call} (hc : c.isQuiet = true) (r : Option c.Reply) : Mute ⟨c, r⟩ := by
  cases c with
  | resource c =>
    cases c with
    | store c => cases c <;> first | exact ⟨rfl, rfl, rfl, rfl, rfl⟩ | cases hc
    | freshId => cases hc
    | _ => exact ⟨rfl, rfl, rfl, rfl, rfl⟩
  | grant g s => cases hc
  | _ => exact ⟨rfl, rfl, rfl, rfl, rfl⟩

namespace Operation

variable {past : Past}

theorem told_of_none {kind : Exchange Call.Reply → Option α} {e : Exchange Call.Reply}
    (h : kind e = none) : told kind (e :: past) = told kind past := by
  rw [told_cons, h]
  rfl

/-- What is known of a past of a drafting operation. -/
structure Drafting (user : User) (past : Past) : Prop where
  claimed : told claimed? past = []
  asked : told asked? past = []
  stored : told stored? past = []
  drafted : told drafted? past = [] ∨ ∃ p, told drafted? past = [p] ∧ p.userId = user.id ∧
    p.consumedAt = none ∧ told issued? past = p.id :: p.groupIds.reverse

theorem draftRule_cases {user : User} {c : Call} (h : draftRule user past c) :
    c.isQuiet = true ∨ (c = .resource .freshId ∧ told drafted? past = []) ∨
    ∃ p, c = .resource (.store (.putPreflight p)) ∧ told drafted? past = [] ∧
      p.userId = user.id ∧ p.consumedAt = none ∧ told issued? past = p.id :: p.groupIds.reverse := by
  unfold draftRule at h
  split at h
  · exact .inr (.inl ⟨rfl, h⟩)
  · exact .inr (.inr ⟨_, rfl, h⟩)
  · exact .inl h

theorem Drafting.of_kept {user : User} (h : Kept (draftRule user) past) : Drafting user past := by
  induction past with
  | nil => exact ⟨rfl, rfl, rfl, .inl rfl⟩
  | cons e past ih =>
    obtain ⟨hc, h⟩ := h
    obtain ⟨hcl, has, hst, hdr⟩ := ih h
    obtain ⟨c, r⟩ := e
    rcases draftRule_cases hc with hq | ⟨rfl, hd⟩ | ⟨p, rfl, hd, hu, hn, hi⟩
    · obtain ⟨m₁, m₂, m₃, m₄, m₅⟩ := mute_of_isQuiet hq r
      constructor
      · rwa [told_of_none m₃]
      · rwa [told_of_none m₄]
      · rwa [told_of_none m₅]
      · rwa [told_of_none m₁, told_of_none m₂]
    · exact ⟨hcl, has, hst, .inl hd⟩
    · refine ⟨hcl, has, hst, ?_⟩
      rcases r with _ | _ | _
      · exact .inl hd
      · exact .inl hd
      · exact .inr ⟨p, by simpa [drafted?] using hd, hu, hn, hi⟩

/-- What is known of a past of a submission. -/
structure Submitting (policy : GrantPolicy) (user : User) (input : Submission) (past : Past) :
    Prop where
  drafted : told drafted? past = []
  claimed : told claimed? past = [] ∨ ∃ p, told claimed? past = [p]
  asked : told asked? past = [] ∨ ∃ p id, told claimed? past = [p] ∧ told issued? past = [id] ∧
    (told asked? past).reverse <+:
      p.accessGroups.map (Requests.accessGroup policy id input.groupOptions)
  stored : ∀ r ∈ told stored? past, ∃ p, told claimed? past = [p] ∧ told issued? past = [r.id] ∧
    r.preflightId = p.id ∧ r.requestedBy = user.requester

theorem submissionRule_cases {policy : GrantPolicy} {user : User} {input : Submission} {c : Call}
    (h : submissionRule policy user input past c) :
    c.isQuiet = true ∨
    (∃ id t, c = .resource (.store (.claimPreflight id user.id t)) ∧ told claimed? past = []) ∨
    (c = .resource .freshId ∧ told issued? past = []) ∨
    (∃ g, c = .grant g user.requester ∧ asksNext policy input past g) ∨
    ∃ r p, c = .resource (.store (.putRequest r)) ∧ told claimed? past = [p] ∧
      told issued? past = [r.id] ∧ r.preflightId = p.id ∧ r.requestedBy = user.requester := by
  unfold submissionRule at h
  split at h
  · obtain ⟨hc, rfl⟩ := h
    exact .inr (.inl ⟨_, _, rfl, hc⟩)
  · exact .inr (.inr (.inl ⟨rfl, h.1⟩))
  · obtain ⟨rfl, h⟩ := h
    exact .inr (.inr (.inr (.inl ⟨_, rfl, h⟩)))
  · obtain ⟨p, h⟩ := h
    exact .inr (.inr (.inr (.inr ⟨_, p, rfl, h⟩)))
  · exact .inl h

theorem Submitting.of_kept {policy : GrantPolicy} {user : User} {input : Submission}
    (h : Kept (submissionRule policy user input) past) : Submitting policy user input past := by
  induction past with
  | nil => exact ⟨rfl, .inl rfl, .inl rfl, by simp⟩
  | cons e past ih =>
    obtain ⟨hc, h⟩ := h
    obtain ⟨hdr, hcl, has, hst⟩ := ih h
    obtain ⟨c, r⟩ := e
    rcases submissionRule_cases hc with hq | ⟨id, t, rfl, hn⟩ | ⟨rfl, hn⟩ | ⟨g, rfl, hg⟩ |
      ⟨request, p, rfl, hp, hi, hr⟩
    · obtain ⟨m₁, m₂, m₃, m₄, m₅⟩ := mute_of_isQuiet hq r
      constructor
      · rwa [told_of_none m₂]
      · rwa [told_of_none m₃]
      · rwa [told_of_none m₁, told_of_none m₃, told_of_none m₄]
      · rwa [told_of_none m₁, told_of_none m₃, told_of_none m₅]
    · -- the groups and the request come after the claim
      have hasked : told asked? past = [] := by
        rcases has with ha | ⟨p, _, hp, _⟩
        · exact ha
        · rw [hn] at hp
          cases hp
      have hstored : told stored? past = [] := by
        refine List.eq_nil_iff_forall_not_mem.mpr fun r hr => ?_
        obtain ⟨p, hp, _⟩ := hst r hr
        rw [hn] at hp
        cases hp
      refine ⟨hdr, ?_, .inl hasked, fun r hr => ?_⟩
      · rcases r with _ | _ | _ | p
        · exact .inl hn
        · exact .inl hn
        · exact .inl hn
        · exact .inr ⟨p, by simp [claimed?, hn]⟩
      · rw [told_of_none rfl, hstored] at hr
        cases hr
    · have hasked : told asked? past = [] := by
        rcases has with ha | ⟨_, id, _, hi, _⟩
        · exact ha
        · rw [hn] at hi
          cases hi
      have hstored : told stored? past = [] := by
        refine List.eq_nil_iff_forall_not_mem.mpr fun r hr => ?_
        obtain ⟨_, _, hi, _⟩ := hst r hr
        rw [hn] at hi
        cases hi
      refine ⟨hdr, hcl, .inl hasked, fun r hr => ?_⟩
      rw [told_of_none rfl, hstored] at hr
      cases hr
    · obtain ⟨p, id, hp, hi, hpre⟩ := hg
      exact ⟨hdr, hcl, .inr ⟨p, id, hp, hi, by simpa [asked?] using hpre⟩, hst⟩
    · refine ⟨hdr, hcl, has, fun r' hr' => ?_⟩
      rcases r with _ | _ | _
      · exact hst r' hr'
      · exact hst r' hr'
      · rw [told_cons] at hr'
        rcases List.mem_cons.mp hr' with rfl | hr'
        · exact ⟨p, hp, hi, hr⟩
        · exact hst r' hr'

/-- What is known of a past of any other operation. -/
structure Silent (past : Past) : Prop where
  drafted : told drafted? past = []
  claimed : told claimed? past = []
  asked : told asked? past = []

theorem Silent.of_kept {rule : Past → Call → Prop} (h : Kept rule past)
    (hm : ∀ past c, rule past c →
      ∀ r, drafted? ⟨c, r⟩ = none ∧ claimed? ⟨c, r⟩ = none ∧ asked? ⟨c, r⟩ = none) :
    Silent past := by
  induction past with
  | nil => exact ⟨rfl, rfl, rfl⟩
  | cons e past ih =>
    obtain ⟨hc, h⟩ := h
    obtain ⟨hdr, hcl, has⟩ := ih h
    obtain ⟨md, mc, ma⟩ := hm past e.call hc e.reply
    constructor
    · rwa [told_of_none md]
    · rwa [told_of_none mc]
    · rwa [told_of_none ma]

variable {rules : ServiceRules} {o : Operation}

/-- Only drafting operations and submissions make the calls that tell something. -/
theorem rule_silent (hd : ∀ user targetIds, o ≠ .createPreflight user targetIds)
    (hs : ∀ user input, o ≠ .createRequest user input) {c : Call} (h : o.rule rules past c)
    (r : Option c.Reply) :
    drafted? ⟨c, r⟩ = none ∧ claimed? ⟨c, r⟩ = none ∧ asked? ⟨c, r⟩ = none := by
  cases c with
  | resource c =>
    cases c with
    | store c =>
      cases c with
      | putPreflight p => cases o <;> first | exact absurd rfl (hd _ _) | cases h
      | claimPreflight id u t => cases o <;> first | exact absurd rfl (hs _ _) | cases h
      | _ => exact ⟨rfl, rfl, rfl⟩
    | _ => exact ⟨rfl, rfl, rfl⟩
  | grant g s => cases o <;> first | exact absurd rfl (hs _ _) | cases h
  | _ => exact ⟨rfl, rfl, rfl⟩

theorem history_cases (h : Kept (o.rule rules) past) :
    (∃ user targetIds, o = .createPreflight user targetIds ∧ Drafting user past) ∨
    (∃ user input, o = .createRequest user input ∧ Submitting rules.policy user input past) ∨
    Silent past := by
  cases o with
  | createPreflight user targetIds => exact .inl ⟨user, targetIds, rfl, .of_kept h⟩
  | createRequest user input => exact .inr (.inl ⟨user, input, rfl, .of_kept h⟩)
  | _ => exact .inr (.inr (.of_kept h fun _ _ hc => rule_silent (by simp) (by simp) hc))

theorem kept_drafted (h : Kept (o.rule rules) past) {p : Preflight} (hp : p ∈ told drafted? past) :
    told drafted? past = [p] ∧ p.consumedAt = none ∧
      told issued? past = p.id :: p.groupIds.reverse := by
  rcases history_cases h with ⟨_, _, _, hd⟩ | ⟨_, _, _, hs⟩ | hr
  · rcases hd.drafted with hn | ⟨q, hq, _, hn, hi⟩
    · rw [hn] at hp
      cases hp
    · rw [hq, List.mem_singleton] at hp
      subst hp
      exact ⟨hq, hn, hi⟩
  · rw [hs.drafted] at hp
    cases hp
  · rw [hr.drafted] at hp
    cases hp

theorem kept_asked (h : Kept (o.rule rules) past) {g : AccessGroup} (hg : g ∈ told asked? past) :
    ∃ p, told claimed? past = [p] ∧ ((told asked? past).map (·.id)).reverse <+: p.groupIds := by
  rcases history_cases h with ⟨_, _, _, hd⟩ | ⟨user, input, _, hs⟩ | hr
  · rw [hd.asked] at hg
    cases hg
  · rcases hs.asked with hn | ⟨p, id, hp, _, hpre⟩
    · rw [hn] at hg
      cases hg
    · have hids := hpre.map (·.id)
      rw [List.map_reverse, List.map_map] at hids
      exact ⟨p, hp, hids⟩
  · rw [hr.asked] at hg
    cases hg

end Operation
end AccessGrants
