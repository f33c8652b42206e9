import AccessGrants.Proofs.Requests.Rules
import AccessGrants.Proofs.Store.Frames

/-!
# AccessGrants.Proofs.Requests.Effects

What one call does to the ids, the preflights and the requests of the world, told from what its
exchange tells.

* `perform_used`       — an exchange hands out a new id, or none.
* `perform_preflights` — it stores a preflight, claims one, or leaves them as they are.
* `perform_requests`   — it stores a request, or leaves them as they are.
-/

namespace AccessGrants

open Exchange

namespace World

variable {x : Surroundings} {w w' : World} {c : Call} {r : c.Reply}

theorem perform_used (h : w.perform x c = some (r, w')) :
    (issued? ⟨c, some r⟩ = none ∧ w'.used = w.used) ∨
    ∃ id, issued? ⟨c, some r⟩ = some id ∧ id ∉ w.used ∧ w'.used = id :: w.used := by
  cases c with
  | resource c =>
    cases c with
    | freshId =>
      simp only [perform] at h
      split at h
      · cases h
      · rename_i hid
        cases h
        exact .inr ⟨x.id, rfl, hid, rfl⟩
    | _ => cases h; exact .inl ⟨rfl, rfl⟩
  | grant g s =>
    obtain ⟨_, _, h⟩ := Option.map_eq_some_iff.mp h
    cases h
    exact .inl ⟨rfl, rfl⟩
  | revoke q a e =>
    obtain ⟨_, _, h⟩ := Option.map_eq_some_iff.mp h
    cases h
    exact .inl ⟨rfl, rfl⟩
  | _ => cases h; exact .inl ⟨rfl, rfl⟩

theorem told_of_not_store (hc : ∀ s, c ≠ .resource (.store s)) (r : Option c.Reply) :
    drafted? ⟨c, r⟩ = none ∧ claimed? ⟨c, r⟩ = none ∧ stored? ⟨c, r⟩ = none ∧
      read? ⟨c, r⟩ = none := by
  cases c with
  | resource c =>
    cases c with
    | store s => exact absurd rfl (hc s)
    | _ => exact ⟨rfl, rfl, rfl, rfl⟩
  | _ => exact ⟨rfl, rfl, rfl, rfl⟩

/-- An exchange stores a preflight, claims one that its owner may still use, or leaves the
preflights as they are. -/
theorem perform_preflights (h : w.perform x c = some (r, w')) :
    (w'.store.preflights = w.store.preflights ∧ drafted? ⟨c, some r⟩ = none ∧
      claimed? ⟨c, some r⟩ = none) ∨
    (∃ p, c = .resource (.store (.putPreflight p)) ∧
      w'.store.preflights = w.store.preflights.insert p.id p ∧ drafted? ⟨c, some r⟩ = some p ∧
      claimed? ⟨c, some r⟩ = none) ∨
    ∃ id userId t p, c = .resource (.store (.claimPreflight id userId t)) ∧
      w.store.preflights[id]? = some p ∧ p.userId = userId ∧ p.consumedAt = none ∧
      w'.store.preflights = w.store.preflights.insert id { p with consumedAt := some t } ∧
      drafted? ⟨c, some r⟩ = none ∧
      claimed? ⟨c, some r⟩ = some { p with consumedAt := some t } := by
  rcases perform_store h with ⟨c, rfl⟩ | ⟨hs, hc⟩
  · cases h
    simp only [MemoryStore.perform_preflights]
    cases c with
    | putPreflight p => exact .inr (.inl ⟨p, rfl, rfl, rfl, rfl⟩)
    | claimPreflight id u t =>
      simp only [MemoryStore.perform, MemoryStore.claimPreflight]
      split
      · exact .inl ⟨rfl, rfl, rfl⟩
      · rename_i p hp
        obtain ⟨hp, huse⟩ := Option.filter_eq_some_iff.mp hp
        simp only [Preflight.usableBy, Preflight.isConsumed, Bool.and_eq_true, decide_eq_true_eq,
          Bool.not_eq_true', Option.isSome_eq_false_iff, Option.isNone_iff_eq_none] at huse
        exact .inr (.inr ⟨id, u, t, p, rfl, hp, huse.1, huse.2, rfl, rfl, rfl⟩)
    | _ => exact .inl ⟨rfl, rfl, rfl⟩
  · obtain ⟨hd, hcl, -, -⟩ := told_of_not_store hc (some r)
    exact .inl ⟨by rw [hs], hd, hcl⟩

/-- An exchange stores a request, or leaves the requests as they are; what is read is stored. -/
theorem perform_requests (h : w.perform x c = some (r, w')) :
    (∃ q, c = .resource (.store (.putRequest q)) ∧
      w'.store.requests = w.store.requests.insert q.id q ∧ stored? ⟨c, some r⟩ = some q ∧
      read? ⟨c, some r⟩ = none) ∨
    w'.store.requests = w.store.requests ∧ stored? ⟨c, some r⟩ = none ∧
      ∀ q, read? ⟨c, some r⟩ = some q → ∃ k : String, w.store.requests[k]? = some q := by
  rcases perform_store h with ⟨c, rfl⟩ | ⟨hs, hc⟩
  · cases h
    simp only [MemoryStore.perform_requests]
    cases c with
    | putRequest q => exact .inl ⟨q, rfl, rfl, rfl, rfl⟩
    | getRequest id => exact .inr ⟨rfl, rfl, fun q hq => ⟨id, hq⟩⟩
    | _ => exact .inr ⟨rfl, rfl, fun q hq => by cases hq⟩
  · obtain ⟨-, -, hst, hr⟩ := told_of_not_store hc (some r)
    refine .inr ⟨by rw [hs], hst, fun q hq => ?_⟩
    rw [hr] at hq
    cases hq

end World

theorem told_lost {c : Call} : issued? ⟨c, none⟩ = none ∧ drafted? ⟨c, none⟩ = none ∧
    claimed? ⟨c, none⟩ = none ∧ stored? ⟨c, none⟩ = none ∧ read? ⟨c, none⟩ = none := by
  cases c with
  | resource c =>
    cases c with
    | store c => cases c <;> exact ⟨rfl, rfl, rfl, rfl, rfl⟩
    | _ => exact ⟨rfl, rfl, rfl, rfl, rfl⟩
  | _ => exact ⟨rfl, rfl, rfl, rfl, rfl⟩

end AccessGrants
