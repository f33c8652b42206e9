import AccessGrants.Proofs.Requests.Effects
import AccessGrants.Proofs.Requests.Histories

/-!
# AccessGrants.Proofs.Preflights.Ownership

Who an id, a preflight or a request belongs to. Each of these is an invariant of traces.

* `IdsOwned`        — every id was handed out to one task, and once.
* `PreflightsOwned` — a stored preflight was drafted under its id, and one task at most claims it.
* `RequestsOwned`   — whatever is stored under the id of a request comes from a submission.
-/

namespace AccessGrants

open Exchange Interaction

namespace Pool

/-! ## Ids -/

section Ids

variable {S : Pool} {rule : S.Op → Past → Call → Prop} {w₀ w w' : World} {log : List S.Entry}

/-- Every id was handed out to one task, and once. -/
structure IdsOwned (w : World) (log : List S.Entry) : Prop where
  used : ∀ i, ∀ id ∈ told issued? (past log i), id ∈ w.used
  owner : ∀ i j, ∀ id ∈ told issued? (past log i), id ∈ told issued? (past log j) → i = j
  once : ∀ i, (told issued? (past log i)).Nodup

theorem IdsOwned.cons_none (h : IdsOwned w log) {i : Nat} {o : S.Op} {ex : Exchange Call.Reply}
    (he : issued? ex = none) (hu : w'.used = w.used) : IdsOwned w' (⟨i, o, ex⟩ :: log) := by
  have same : ∀ j, told issued? (past (⟨i, o, ex⟩ :: log) j) = told issued? (past log j) := by
    intro j
    rw [told_past_cons, he]
    split <;> rfl
  constructor
  · intro j
    rw [same, hu]
    exact h.used j
  · intro j k
    rw [same, same]
    exact h.owner j k
  · intro j
    rw [same]
    exact h.once j

/-- An id that was not used belongs to no task yet, so the task that gets it is its only owner. -/
theorem IdsOwned.cons_some (h : IdsOwned w log) {i : Nat} {o : S.Op} {ex : Exchange Call.Reply}
    {id : String} (he : issued? ex = some id) (hid : id ∉ w.used) (hu : w'.used = id :: w.used) :
    IdsOwned w' (⟨i, o, ex⟩ :: log) := by
  have fresh : ∀ j, id ∉ told issued? (past log j) := fun j hj => hid (h.used j id hj)
  constructor
  · intro j id' hid'
    rw [mem_told_past_cons, he] at hid'
    rw [hu]
    rcases hid' with ⟨-, hid'⟩ | hid'
    · cases hid'
      exact List.mem_cons_self
    · exact List.mem_cons_of_mem _ (h.used j id' hid')
  · intro j k id' hj hk
    rw [mem_told_past_cons, he] at hj hk
    rcases hj with ⟨rfl, hj⟩ | hj
    · rcases hk with ⟨rfl, -⟩ | hk
      · rfl
      · cases hj
        exact absurd hk (fresh k)
    · rcases hk with ⟨rfl, hk⟩ | hk
      · cases hk
        exact absurd hj (fresh j)
      · exact h.owner j k id' hj hk
  · intro j
    rw [told_past_cons, he]
    split
    · exact List.nodup_cons.mpr ⟨fresh j, h.once j⟩
    · exact h.once j

theorem Trace.idsOwned (h : Trace rule w₀ w log) : IdsOwned w log := by
  induction h with
  | init => exact ⟨by simp, by simp, by simp⟩
  | clock t _ ih => exact ⟨ih.used, ih.owner, ih.once⟩
  | answered _ _ _ hw ih =>
    rcases World.perform_used hw with ⟨he, hu⟩ | ⟨id, he, hid, hu⟩
    · exact ih.cons_none he hu
    · exact ih.cons_some he hid hu
  | lost _ _ _ ih => exact ih.cons_none told_lost.1 rfl

end Ids

/-! ## Preflights -/

theorem kept_of_told {S : Pool} {rule : S.Op → Past → Call → Prop} {w₀ w : World}
    {log : List S.Entry} (ht : Trace rule w₀ w log)
    {kind : Exchange Call.Reply → Option α} {j : Nat} {a : α} (ha : a ∈ told kind (past log j)) :
    ∃ o, Runs log j o ∧ Kept (rule o) (past log j) := by
  obtain ⟨o, ho⟩ := runs_of_told ha
  exact ⟨o, ho, ht.kept_of_runs ho⟩

/-- Rules by which a preflight is drafted once, with ids that were handed out for it, and claimed by
submissions of its user only. -/
structure KeepsPreflights (rule : Operation → Past → Call → Prop) : Prop where
  drafted : ∀ {o past p}, Kept (rule o) past → p ∈ told drafted? past →
    told drafted? past = [p] ∧ p.consumedAt = none ∧ told issued? past = p.id :: p.groupIds.reverse
  claim : ∀ {o past id userId t},
    rule o past (.resource (.store (.claimPreflight id userId t))) →
    ∃ user input, o = .createRequest user input ∧ userId = user.id

theorem rule_claim {rules : ServiceRules} {o : Operation} {past : Past} {id userId : String}
    {t : Instant} (h : o.rule rules past (.resource (.store (.claimPreflight id userId t)))) :
    ∃ user input, o = .createRequest user input ∧ userId = user.id := by
  cases o with
  | createRequest user input => exact ⟨user, input, rfl, h.2⟩
  | _ => cases h

theorem keepsPreflights (rules : ServiceRules) : KeepsPreflights (Operation.rule rules) :=
  ⟨fun h hp => Operation.kept_drafted h hp, rule_claim⟩

section Preflights

variable {R : Operation → Type} {program : (o : Operation) → Service (R o)}
  {view : Surroundings → Surroundings} {w₀ w : World}
  {log : List (Pool.mk Operation R program view).Entry} {rule : Operation → Past → Call → Prop}

/-- A stored preflight was drafted under its id, and a consumed one was claimed. One that was claimed
stays as it was answered, and its claimer is a submission of its user. -/
structure PreflightsOwned (s : MemoryStore)
    (log : List (Pool.mk Operation R program view).Entry) : Prop where
  drafted : ∀ (k : String) (p : Preflight), s.preflights[k]? = some p → p.id = k ∧
    ∃ i, ∃ p₀ ∈ told drafted? (past log i), p₀.id = k ∧ p₀.groupIds = p.groupIds
  consumed : ∀ (k : String) (p : Preflight), s.preflights[k]? = some p → p.isConsumed = true →
    ∃ i, p ∈ told claimed? (past log i)
  claimed : ∀ i, ∀ p ∈ told claimed? (past log i), s.preflights[p.id]? = some p ∧
    p.isConsumed = true ∧ ∃ user input, Runs log i (.createRequest user input) ∧ user.id = p.userId
  once : ∀ i j, ∀ p ∈ told claimed? (past log i), ∀ q ∈ told claimed? (past log j),
    p.id = q.id → i = j

variable {s s' : MemoryStore} {i : Nat} {o : Operation} {ex : Exchange Call.Reply}

theorem PreflightsOwned.cons_none (h : PreflightsOwned s log) (hc : claimed? ex = none)
    (hs : s'.preflights = s.preflights) :
    PreflightsOwned s' (⟨i, o, ex⟩ :: log) := by
  have same : ∀ {j p}, p ∈ told claimed? (past (⟨i, o, ex⟩ :: log) j) →
      p ∈ told claimed? (past log j) := by
    intro j p hp
    rw [mem_told_past_cons, hc] at hp
    simpa using hp
  constructor
  · intro k p hp
    rw [hs] at hp
    obtain ⟨hid, j, p₀, hp₀, h₀⟩ := h.drafted k p hp
    exact ⟨hid, j, p₀, mem_told_past_cons.mpr (.inr hp₀), h₀⟩
  · intro k p hp hc
    rw [hs] at hp
    obtain ⟨j, hj⟩ := h.consumed k p hp hc
    exact ⟨j, mem_told_past_cons.mpr (.inr hj)⟩
  · intro j p hp
    obtain ⟨hst, hcons, user, input, hr, hu⟩ := h.claimed j p (same hp)
    exact ⟨by rw [hs]; exact hst, hcons, user, input, hr.cons _, hu⟩
  · intro j k p hp q hq
    exact h.once j k p (same hp) q (same hq)

/-- A preflight is drafted under an id that was handed out for it, so nothing is stored there. -/
theorem PreflightsOwned.free (hrule : KeepsPreflights rule) (h : PreflightsOwned s log)
    {w' : World} (ht : Trace (S := Pool.mk Operation R program view) rule w₀ w log)
    (ht' : Trace (S := Pool.mk Operation R program view) rule w₀ w' (⟨i, o, ex⟩ :: log))
    {p : Preflight} (hd : drafted? ex = some p) :
    s.preflights[p.id]? = none ∧ p.consumedAt = none := by
  have hp : p ∈ told drafted? (past (⟨i, o, ex⟩ :: log) i) := mem_told_past_cons.mpr (.inl ⟨rfl, hd⟩)
  obtain ⟨_, -, hkept⟩ := kept_of_told ht' hp
  obtain ⟨honly, hn, hissued⟩ := hrule.drafted hkept hp
  refine ⟨?_, hn⟩
  cases hq : s.preflights[p.id]? with
  | none => rfl
  | some q =>
    obtain ⟨-, j, p₀, hp₀, hid, -⟩ := h.drafted p.id q hq
    obtain ⟨_, -, hkept₀⟩ := kept_of_told ht hp₀
    obtain ⟨-, -, hissued₀⟩ := hrule.drafted hkept₀ hp₀
    -- both drafts are under one id, so they are of one task, which has drafted only once
    have hj : p.id ∈ told issued? (past (⟨i, o, ex⟩ :: log) j) :=
      mem_told_past_cons.mpr (.inr (by rw [hissued₀, hid]; exact List.mem_cons_self))
    obtain rfl : i = j := ht'.idsOwned.owner i j p.id (by rw [hissued]; exact List.mem_cons_self) hj
    have hnone : told drafted? (past log i) = [] := by
      rw [told_past_cons, if_pos rfl, hd] at honly
      simpa using honly
    rw [hnone] at hp₀
    cases hp₀

theorem PreflightsOwned.cons_drafted (h : PreflightsOwned s log) {p : Preflight}
    (hfree : s.preflights[p.id]? = none) (hn : p.consumedAt = none) (hd : drafted? ex = some p)
    (hc : claimed? ex = none)
    (hs : s'.preflights = s.preflights.insert p.id p) : PreflightsOwned s' (⟨i, o, ex⟩ :: log) := by
  have same : ∀ {j q}, q ∈ told claimed? (past (⟨i, o, ex⟩ :: log) j) →
      q ∈ told claimed? (past log j) := by
    intro j q hq
    rw [mem_told_past_cons, hc] at hq
    simpa using hq
  constructor
  · intro k q hq
    rw [hs, MemoryStore.getElem?_insert_row] at hq
    split at hq
    · rename_i hk
      cases hq
      exact ⟨hk, i, p, mem_told_past_cons.mpr (.inl ⟨rfl, hd⟩), hk, rfl⟩
    · obtain ⟨hid, j, p₀, hp₀, h₀⟩ := h.drafted k q hq
      exact ⟨hid, j, p₀, mem_told_past_cons.mpr (.inr hp₀), h₀⟩
  · intro k q hq hqc
    rw [hs, MemoryStore.getElem?_insert_row] at hq
    split at hq
    · cases hq
      rw [Preflight.isConsumed, hn] at hqc
      cases hqc
    · obtain ⟨j, hj⟩ := h.consumed k q hq hqc
      exact ⟨j, mem_told_past_cons.mpr (.inr hj)⟩
  · intro j q hq
    obtain ⟨hst, hcons, user, input, hr, hu⟩ := h.claimed j q (same hq)
    refine ⟨?_, hcons, user, input, hr.cons _, hu⟩
    rw [hs, MemoryStore.getElem?_insert_row, if_neg]
    · exact hst
    · intro hpq
      rw [hpq, hst] at hfree
      cases hfree
  · intro j k q hq r hr
    exact h.once j k q (same hq) r (same hr)

/-- A preflight that can be claimed was not claimed before, so its claimer is the only one. -/
theorem PreflightsOwned.cons_claimed (h : PreflightsOwned s log) {id : String} {t : Instant}
    {p : Preflight} (hp : s.preflights[id]? = some p) (hn : p.consumedAt = none)
    (hc : claimed? ex = some { p with consumedAt := some t })
    (hs : s'.preflights = s.preflights.insert id { p with consumedAt := some t })
    (hu : ∃ user input, o = .createRequest user input ∧ user.id = p.userId) :
    PreflightsOwned s' (⟨i, o, ex⟩ :: log) := by
  obtain ⟨hid, m, p₀, hp₀, h₀⟩ := h.drafted id p hp
  have new : ∀ j, ∀ q ∈ told claimed? (past log j), q.id ≠ id := by
    rintro j q hq rfl
    obtain ⟨hst, hcons, -⟩ := h.claimed j q hq
    rw [hp] at hst
    cases hst
    rw [Preflight.isConsumed, hn] at hcons
    cases hcons
  constructor
  · intro k q hq
    rw [hs, MemoryStore.getElem?_insert_row] at hq
    split at hq
    · rename_i hk
      cases hq
      exact ⟨hid.trans hk, m, p₀, mem_told_past_cons.mpr (.inr hp₀), h₀.1.trans hk, h₀.2⟩
    · obtain ⟨hid, j, p₀, hp₀, h₀⟩ := h.drafted k q hq
      exact ⟨hid, j, p₀, mem_told_past_cons.mpr (.inr hp₀), h₀⟩
  · intro k q hq hqc
    rw [hs, MemoryStore.getElem?_insert_row] at hq
    split at hq
    · cases hq
      exact ⟨i, mem_told_past_cons.mpr (.inl ⟨rfl, hc⟩)⟩
    · obtain ⟨j, hj⟩ := h.consumed k q hq hqc
      exact ⟨j, mem_told_past_cons.mpr (.inr hj)⟩
  · intro j q hq
    rw [mem_told_past_cons, hc] at hq
    rw [hs, MemoryStore.getElem?_insert_row]
    rcases hq with ⟨rfl, hq⟩ | hq
    · cases hq
      obtain ⟨user, input, rfl, hu⟩ := hu
      exact ⟨if_pos hid.symm, rfl, user, input, ⟨_, List.mem_cons_self, rfl, rfl⟩, hu⟩
    · obtain ⟨hst, hcons, user, input, hr, hu⟩ := h.claimed j q hq
      rw [if_neg fun hk => new j q hq hk.symm]
      exact ⟨hst, hcons, user, input, hr.cons _, hu⟩
  · intro j k q hq r hr hqr
    rw [mem_told_past_cons, hc] at hq hr
    rcases hq with ⟨rfl, hq⟩ | hq
    · rcases hr with ⟨rfl, -⟩ | hr
      · rfl
      · cases hq
        exact absurd (hqr.symm.trans hid) (new k r hr)
    · rcases hr with ⟨rfl, hr⟩ | hr
      · cases hr
        exact absurd (hqr.trans hid) (new j q hq)
      · exact h.once j k q hq r hr hqr

theorem Trace.preflightsOwned_of (hrule : KeepsPreflights rule) (h₀ : w₀.store.preflights = ∅)
    (h : Trace (S := Pool.mk Operation R program view) rule w₀ w log) :
    PreflightsOwned w.store log := by
  induction h with
  | init => exact ⟨by simp [h₀], by simp [h₀], by simp, by simp⟩
  | clock t _ ih => exact ih
  | answered ht ho hcall hw ih =>
    rcases World.perform_preflights hw with ⟨hs, -, hc⟩ | ⟨p, -, hs, hd, hc⟩ |
      ⟨id, u, t, p, rfl, hp, hu, hn, hs, -, hc⟩
    · exact ih.cons_none hc hs
    · obtain ⟨hfree, hn⟩ := ih.free hrule ht (.answered ht ho hcall hw) hd
      exact ih.cons_drafted hfree hn hd hc hs
    · obtain ⟨user, input, rfl, hu'⟩ := hrule.claim hcall
      exact ih.cons_claimed hp hn hc hs ⟨user, input, rfl, hu'.symm.trans hu.symm⟩
  | lost _ _ _ ih => exact ih.cons_none told_lost.2.2.1 rfl

end Preflights

section Services

variable {rules : ServiceRules} {view : Surroundings → Surroundings} {w₀ w : World}
  {log : List (services rules view).Entry}

theorem Trace.preflightsOwned (h₀ : w₀.store.preflights = ∅)
    (h : Trace (S := services rules view) (Operation.rule rules) w₀ w log) :
    PreflightsOwned w.store log :=
  h.preflightsOwned_of (keepsPreflights rules) h₀

/-! ## Requests -/

/-- A version of this request was stored by a submission. -/
def Submitted (log : List (services rules view).Entry) (r : AccessRequest) : Prop :=
  ∃ i user input, Runs log i (.createRequest user input) ∧
    ∃ r₀ ∈ told stored? (past log i), r.SameAs r₀

theorem Submitted.cons {r : AccessRequest} (h : Submitted log r)
    (e : (services rules view).Entry) : Submitted (e :: log) r := by
  obtain ⟨i, user, input, hr, r₀, hr₀, hs⟩ := h
  exact ⟨i, user, input, hr.cons e, r₀, mem_told_past_cons.mpr (.inr hr₀), hs⟩

/-- Whatever is stored or was read under a request's id comes from a submission. -/
structure RequestsOwned (s : MemoryStore) (log : List (services rules view).Entry) : Prop where
  stored : ∀ (k : String) (r : AccessRequest), s.requests[k]? = some r → r.id = k ∧ Submitted log r
  read : ∀ i, ∀ r ∈ told read? (past log i), Submitted log r

theorem rule_put {o : Operation} {past : Past} {r : AccessRequest}
    (h : o.rule rules past (.resource (.store (.putRequest r)))) :
    (∃ user input, o = .createRequest user input) ∨ ∃ r' ∈ told read? past, r.SameAs r' := by
  cases o with
  | createRequest user input => exact .inl ⟨user, input, rfl⟩
  | revokeRequest actor id =>
    obtain ⟨-, q, t, v, hd, rfl⟩ := h
    exact .inr ⟨q, hd.mem_read, q.outcome_sameAs t v⟩
  | _ => cases h

variable {s s' : MemoryStore} {i : Nat} {o : Operation} {ex : Exchange Call.Reply}

theorem RequestsOwned.cons_none (h : RequestsOwned s log) (hs : s'.requests = s.requests)
    (hr : ∀ r, read? ex = some r → ∃ k : String, s.requests[k]? = some r) :
    RequestsOwned s' (⟨i, o, ex⟩ :: log) := by
  constructor
  · intro k r hk
    rw [hs] at hk
    exact ⟨(h.stored k r hk).1, (h.stored k r hk).2.cons _⟩
  · intro j r hj
    rw [mem_told_past_cons] at hj
    rcases hj with ⟨rfl, hj⟩ | hj
    · obtain ⟨k, hk⟩ := hr r hj
      exact (h.stored k r hk).2.cons _
    · exact (h.read j r hj).cons _

theorem RequestsOwned.cons_stored (h : RequestsOwned s log) {r : AccessRequest}
    (hrule : o.rule rules (past log i) (.resource (.store (.putRequest r))))
    (hst : stored? ex = some r) (hrd : read? ex = none)
    (hs : s'.requests = s.requests.insert r.id r) : RequestsOwned s' (⟨i, o, ex⟩ :: log) := by
  have new : Submitted (⟨i, o, ex⟩ :: log) r := by
    rcases rule_put hrule with ⟨user, input, rfl⟩ | ⟨r', hr', hsame⟩
    · exact ⟨i, user, input, ⟨_, List.mem_cons_self, rfl, rfl⟩, r,
        mem_told_past_cons.mpr (.inl ⟨rfl, hst⟩), .refl r⟩
    · obtain ⟨j, user, input, hj, r₀, hr₀, h₀⟩ := (h.read i r' hr').cons ⟨i, o, ex⟩
      exact ⟨j, user, input, hj, r₀, hr₀, hsame.trans h₀⟩
  constructor
  · intro k q hq
    rw [hs, MemoryStore.getElem?_insert_row] at hq
    split at hq
    · rename_i hk
      cases hq
      exact ⟨hk, new⟩
    · exact ⟨(h.stored k q hq).1, (h.stored k q hq).2.cons _⟩
  · intro j q hq
    rw [mem_told_past_cons, hrd] at hq
    rcases hq with ⟨-, hq⟩ | hq
    · cases hq
    · exact (h.read j q hq).cons _

theorem Trace.requestsOwned (h₀ : w₀.store.requests = ∅)
    (h : Trace (S := services rules view) (Operation.rule rules) w₀ w log) :
    RequestsOwned w.store log := by
  induction h with
  | init => exact ⟨by simp [h₀], by simp⟩
  | clock t _ ih => exact ih
  | answered _ _ hrule hw ih =>
    rcases World.perform_requests hw with ⟨r, rfl, hs, hst, hrd⟩ | ⟨hs, -, hrd⟩
    · exact ih.cons_stored hrule hst hrd hs
    · exact ih.cons_none hs hrd
  | lost _ _ _ ih =>
    refine ih.cons_none rfl fun r hr => ?_
    rw [told_lost.2.2.2.2] at hr
    cases hr

end Services

end Pool
end AccessGrants
