import AccessGrants.Proofs.Alone.Run
import AccessGrants.Proofs.Store.Links

/-!
# AccessGrants.Proofs.Alone.Grades

What an operation may leave behind when it fails, by the way it is built.

* `Avoids`        — no call of a past is of a kind, such as those that are heard outside.
* `Looks`         — an operation that never writes.
* `Withdraws`     — one that has not written when it fails.
* `Certain`       — one that does not fail.

An operation withdraws when it looks first, writes once, and is certain from then on.
-/

namespace AccessGrants

namespace Call

def isGrant : Call → Bool
  | grant _ _ => true
  | _ => false

def isRevoke : Call → Bool
  | revoke _ _ _ => true
  | _ => false

def isEmit : Call → Bool
  | resource (.emit _) => true
  | _ => false

/-- Calls that are heard outside of the store: those of the workflow, and events. -/
def isOutward (c : Call) : Bool :=
  c.isGrant || c.isRevoke || c.isEmit

end Call

namespace StoreCall

def isReading : StoreCall → Bool
  | insertTargetGroup _ | upsertDeployment _ _ | assignDeployment _ _ _ | clearAssignment _ _ => false
  | putPreflight _ | claimPreflight _ _ _ | putRequest _ | putTarget _ | putArgOptions _ => false
  | _ => true

end StoreCall

/-- No call of a past is of a kind. -/
def Avoids (kind : Call → Bool) (past : Past) : Prop :=
  ∀ e ∈ past, kind e.call = false

def GrantFailed (past : Past) : Prop :=
  ∃ g s e, ⟨.grant g s, some (.error e)⟩ ∈ past

def RevokeFailed (past : Past) : Prop :=
  ∃ r a m e, ⟨.revoke r a m, some (.error e)⟩ ∈ past

section Avoids

variable {kind : Call → Bool} {past : Past} {e : Exchange Call.Reply}

@[simp] theorem avoids_nil : Avoids kind [] := by simp [Avoids]

@[simp] theorem avoids_cons : Avoids kind (e :: past) ↔ kind e.call = false ∧ Avoids kind past := by
  simp [Avoids]

theorem avoids_isOutward : Avoids Call.isOutward past ↔
    Avoids Call.isGrant past ∧ Avoids Call.isRevoke past ∧ Avoids Call.isEmit past := by
  simp only [Avoids, Call.isOutward, Bool.or_eq_false_iff, and_assoc, ← forall_and]

theorem Avoids.not_grantFailed (h : Avoids Call.isGrant past) : ¬ GrantFailed past := by
  rintro ⟨g, s, e, he⟩
  exact absurd (h _ he) (by simp [Call.isGrant])

theorem Avoids.not_revokeFailed (h : Avoids Call.isRevoke past) : ¬ RevokeFailed past := by
  rintro ⟨r, a, m, e, he⟩
  exact absurd (h _ he) (by simp [Call.isRevoke])

theorem RevokeFailed.cons (h : RevokeFailed past) : RevokeFailed (e :: past) := by
  obtain ⟨r, a, m, error, he⟩ := h
  exact ⟨r, a, m, error, List.mem_cons_of_mem _ he⟩

end Avoids

namespace MemoryStore

theorem perform_of_isReading {s : MemoryStore} {c : StoreCall} (h : c.isReading = true) :
    (s.perform c).2 = s := by
  cases c <;> first | rfl | cases h

/-- A call that fails changes nothing. -/
theorem perform_of_error {s : MemoryStore} {c : StoreCall} {e : StoreError}
    (h : (s.perform c).1 = .error e) : (s.perform c).2 = s := by
  cases c with
  | insertTargetGroup group =>
    simp only [perform, insertTargetGroup] at h ⊢
    split at h
    · rename_i hc
      rw [if_pos hc]
    · cases h
  | upsertDeployment d guard =>
    simp only [perform, upsertDeployment] at h ⊢
    split at h
    · cases h
    · rename_i hc
      rw [if_neg hc]
  | assignDeployment id p a =>
    rcases assignDeployment_view s id p a with hs | ⟨-, -, -, -⟩
    · exact hs
    · simp only [perform, assignDeployment] at h ⊢
      repeat' split at h
      all_goals simp_all
  | clearAssignment id g =>
    simp only [perform, clearAssignment] at h ⊢
    repeat' split at h
    all_goals simp_all
  | _ => first | rfl | cases h

end MemoryStore

namespace Service

variable {s : MemoryStore} {past : Past} {ok : MemoryStore → Past → α → Prop}
  {err : MemoryStore → Past → ServiceError → Prop}

/-- It writes nothing and is not heard outside, whether it returns or fails. -/
def Looks (p : Service α) : Prop :=
  ∀ s past, Avoids Call.isOutward past →
    p.Ensures (fun s' past' _ => s' = s ∧ Avoids Call.isOutward past')
      (fun s' past' _ => s' = s ∧ Avoids Call.isOutward past') s past

/-- When it fails, it has written nothing and was not heard outside. -/
def Withdraws (p : Service α) : Prop :=
  ∀ s past, Avoids Call.isOutward past →
    p.Ensures (fun _ _ _ => True) (fun s' past' _ => s' = s ∧ Avoids Call.isOutward past') s past

def Certain (p : Service α) : Prop :=
  ∀ s past, p.Ensures (fun _ _ _ => True) (fun _ _ _ => False) s past

theorem looks_pure (a : α) : Looks (pure a) :=
  fun _ _ h => ⟨rfl, h⟩

theorem looks_throw (e : ServiceError) : Looks (throw e : Service α) :=
  fun _ _ h => ⟨rfl, h⟩

theorem looks_call {c : Call} (hs : ∀ c', c ≠ .resource (.store c')) (hc : c.isOutward = false) :
    Looks (call c) :=
  fun _ _ h => ensures_call_of_not_store hs fun _ => ⟨rfl, avoids_cons.mpr ⟨hc, h⟩⟩

theorem looks_ask {r : Resource} (hs : ∀ c', r ≠ .store c')
    (hr : (Call.resource r).isOutward = false) : Looks (ask r) :=
  looks_call (fun c' h => hs c' (Call.resource.inj h)) hr

theorem looks_count (m : Metric) : Looks (count m) :=
  looks_ask (fun _ => nofun) rfl

theorem looks_now : Looks now :=
  looks_ask (fun _ => nofun) rfl

theorem looks_freshId : Looks freshId :=
  looks_ask (fun _ => nofun) rfl

theorem looks_store {c : StoreCall} (hc : c.isReading = true) : Looks (store c) := by
  intro s past h
  have hsilent : ∀ r, Avoids Call.isOutward (⟨.resource (.store c), r⟩ :: past) :=
    fun _ => avoids_cons.mpr ⟨rfl, h⟩
  have hsame : (s.perform c).2 = s := MemoryStore.perform_of_isReading hc
  exact ensures_store (fun _ _ => ⟨hsame, hsilent _⟩) fun _ _ => ⟨hsame, hsilent _⟩

theorem looks_orNotFound (what : String) (a : Option α) : Looks (orNotFound what a) := by
  cases a with
  | none => exact looks_throw _
  | some a => exact looks_pure a

theorem looks_verdict (answer : Except String Bool) : Looks (verdict answer) := by
  cases answer with
  | error d => exact looks_throw _
  | ok b => exact looks_pure b

/-- After an operation that only looks, the next one starts where this one did. -/
theorem Looks.ensures_bind {p : Service β} {f : β → Service α} (hp : Looks p)
    (hpast : Avoids Call.isOutward past)
    (hf : ∀ b past', Avoids Call.isOutward past' → (f b).Ensures ok err s past')
    (he : ∀ past' e, Avoids Call.isOutward past' → err s past' e) :
    (p >>= f).Ensures ok err s past := by
  rw [Service.ensures_bind]
  refine (hp s past hpast).mono ?_ ?_
  · rintro _ past' b ⟨rfl, h⟩
    exact hf b past' h
  · rintro _ past' e ⟨rfl, h⟩
    exact he past' e h

theorem Looks.bind {p : Service β} {f : β → Service α} (hp : Looks p) (hf : ∀ b, Looks (f b)) :
    Looks (p >>= f) :=
  fun s _ h => hp.ensures_bind h (fun b past' h' => hf b s past' h') fun _ _ h' => ⟨rfl, h'⟩

theorem Looks.withdraws {p : Service α} (hp : Looks p) : Withdraws p :=
  fun s past h => (hp s past h).mono (fun _ _ _ _ => trivial) fun _ _ _ => id

/-- What looks first may still be followed by any operation that withdraws. -/
theorem Looks.bind_withdraws {p : Service β} {f : β → Service α} (hp : Looks p)
    (hf : ∀ b, Withdraws (f b)) : Withdraws (p >>= f) :=
  fun s _ h => hp.ensures_bind h (fun b past' h' => hf b s past' h') fun _ _ h' => ⟨rfl, h'⟩

theorem Withdraws.bind_certain {p : Service β} {f : β → Service α} (hp : Withdraws p)
    (hf : ∀ b, Certain (f b)) : Withdraws (p >>= f) := by
  intro s past h
  rw [Service.ensures_bind]
  refine (hp s past h).mono ?_ fun _ _ _ => id
  intro s' past' b _
  exact (hf b s' past').mono (fun _ _ _ => id) fun _ _ _ => False.elim

theorem certain_pure (a : α) : Certain (pure a) :=
  fun _ _ => trivial

theorem certain_call (c : Call) : Certain (call c) := by
  intro s past m r s' _
  trivial

theorem certain_ask (r : Resource) : Certain (ask r) :=
  certain_call (.resource r)

theorem Certain.bind {p : Service β} {f : β → Service α} (hp : Certain p)
    (hf : ∀ b, Certain (f b)) : Certain (p >>= f) := by
  intro s past
  rw [Service.ensures_bind]
  exact (hp s past).mono (fun s' past' b _ => hf b s' past') fun _ _ _ => id

theorem certain_count (m : Metric) : Certain (count m) :=
  certain_ask (.count m)

theorem certain_emit (e : AccessEvent) : Certain (emit e) :=
  (certain_ask (.emit e)).bind fun _ => certain_pure ()

theorem certain_store {c : StoreCall} (h : ∀ s e, (MemoryStore.perform s c).1 ≠ .error e) :
    Certain (store c) :=
  fun s _ => ensures_store (fun _ _ => trivial) fun e he => h s e he

/-- An operation that goes on from the answer of a store call, and fails from an error only. -/
theorem withdraws_ask_store {c : StoreCall} {f : c.Reply → Service α}
    (he : ∀ e, Withdraws (f (.error e))) (ho : ∀ a, Certain (f (.ok a))) :
    Withdraws (ask (.store c) >>= f) := by
  intro s past h
  rw [Service.ensures_bind]
  refine ensures_ask_store ?_
  cases hc : (s.perform c).1 with
  | ok a => exact (ho a _ _).mono (fun _ _ _ => id) fun _ _ _ => False.elim
  | error e =>
    rw [MemoryStore.perform_of_error hc]
    exact he e s _ (avoids_cons.mpr ⟨rfl, h⟩)

theorem withdraws_store (c : StoreCall) : Withdraws (store c) :=
  withdraws_ask_store (fun e => (looks_throw (.store e)).withdraws) certain_pure

end Service

end AccessGrants
