import AccessGrants.Proofs.Alone.Run
import AccessGrants.Proofs.Concurrency.Handlers

/-!
# AccessGrants.Proofs.Alone.InStep

One operation over two stores. Both runs get the same answers to all calls but those of the store,
and they are compared call by call.

* `GroupAuthorizer.handle`, `Service.authorizedBy` — authorization by groups; the workflow stays open.
* `Interaction.InStep` — two programs that make the same calls and end alike.
* `alone_of_inStep`    — what this says of their runs.
* `InStep.exists_alone` — they come to an end.
* `Service.Blind`      — an operation that returns the same over any two related stores. There is one
                         rule for each way to build an operation.
-/

namespace AccessGrants

/-! ## Authorization by groups -/

/-- Questions to the authorizer are answered from the groups of the user, the cached targets and the
reviewers of the request. -/
def GroupAuthorizer.handle (a : GroupAuthorizer) : (c : Call) → Service c.Reply
  | .mayRequest user targetId => Service.ofResources (GroupAuthorizer.mayRequest user targetId)
  | .isAdmin user => pure (.ok (a.isAdmin user))
  | .isReviewer user request => pure (.ok (GroupAuthorizer.isReviewer user request))
  | c => Service.call c

namespace Service

theorem handle_keeps (a : GroupAuthorizer) : Keeps a.handle := fun _ => rfl

def authorizedBy (a : GroupAuthorizer) (p : Service α) : Service α :=
  p.via a.handle

end Service

/-! ## Answers over two stores -/

namespace MemoryStore

/-- What is answered to a call that is not one of the store does not depend on the store. -/
theorem answer_elsewhere (m : Moment) {c : Call} (hc : ∀ c', c ≠ .resource (.store c')) :
    ∃ reply : Option c.Reply, ∀ s : MemoryStore, s.answer m c = reply.map (·, s) := by
  cases c with
  | resource q =>
    cases q with
    | store c' => exact absurd rfl (hc c')
    | lookup p => exact ⟨some (m.surroundings.registry p), fun _ => rfl⟩
    | fetchOptions p a => exact ⟨some (m.surroundings.options p a), fun _ => rfl⟩
    | emit e => exact ⟨some (m.surroundings.events e), fun _ => rfl⟩
    | now => exact ⟨some m.clock, fun _ => rfl⟩
    | freshId => exact ⟨some m.surroundings.id, fun _ => rfl⟩
    | count metric => exact ⟨some (), fun _ => rfl⟩
  | grant g subject => exact ⟨m.surroundings.grant g subject, fun _ => Option.map_map _ _ _⟩
  | revoke r id email => exact ⟨m.surroundings.revoke r id email, fun _ => Option.map_map _ _ _⟩
  | mayRequest user id => exact ⟨some (m.surroundings.mayRequest user id), fun _ => rfl⟩
  | isAdmin user => exact ⟨some (m.surroundings.isAdmin user), fun _ => rfl⟩
  | isReviewer user r => exact ⟨some (m.surroundings.isReviewer user r), fun _ => rfl⟩

end MemoryStore

/-- Whatever the workflow is asked at the moment, it returns. -/
structure Moment.Returns (m : Moment) : Prop where
  grant : ∀ group subject, (m.surroundings.grant group subject).isSome = true
  revoke : ∀ request id email, (m.surroundings.revoke request id email).isSome = true

/-- The calls of the workflow are the only ones that may not return. -/
theorem Moment.Returns.answer {m : Moment} (h : m.Returns) (s : MemoryStore) (c : Call) :
    (s.answer m c).isSome = true := by
  cases c with
  | resource r => cases r <;> rfl
  | grant group subject =>
    rw [MemoryStore.answer, World.perform, Option.isSome_map, Option.isSome_map]
    exact h.grant group subject
  | revoke request id email =>
    rw [MemoryStore.answer, World.perform, Option.isSome_map, Option.isSome_map]
    exact h.revoke request id email
  | _ => rfl

namespace Interaction

variable {fits : Moment → Prop}

/-- Two programs, each over its own store, make the same calls at the moments that fit, as long as
they run, and end alike. Neither overflows. -/
inductive InStep (fits : Moment → Prop) (post : MemoryStore → MemoryStore → α → β → Prop) :
    MemoryStore → MemoryStore → Proc α → Proc β → Prop
  | done {s s' : MemoryStore} {a : α} {b : β} : post s s' a b →
      InStep fits post s s' (.done a) (.done b)
  | step {s s' : MemoryStore} {c : Call} {next : c.Reply → Proc α} {next' : c.Reply → Proc β} :
      (∀ m, fits m → (s.answer m c).isSome = (s'.answer m c).isSome) →
      (∀ m r t r' t', fits m → s.answer m c = some (r, t) → s'.answer m c = some (r', t') →
        InStep fits post t t' (next r) (next' r')) →
      InStep fits post s s' (.step c next) (.step c next')

variable {s s' : MemoryStore}

theorem InStep.bind {post : MemoryStore → MemoryStore → γ → δ → Prop} {p : Proc α} {p' : Proc β}
    {f : α → Proc γ} {f' : β → Proc δ}
    (h : InStep fits (fun t t' a b => InStep fits post t t' (f a) (f' b)) s s' p p') :
    InStep fits post s s' (p >>= f) (p' >>= f') := by
  induction h with
  | done h => exact h
  | step hsome _ ih => exact .step hsome ih

theorem InStep.mono {post post' : MemoryStore → MemoryStore → α → β → Prop} {p : Proc α}
    {p' : Proc β} (h : InStep fits post s s' p p')
    (hp : ∀ t t' a b, post t t' a b → post' t t' a b) : InStep fits post' s s' p p' := by
  induction h with
  | done h => exact .done (hp _ _ _ _ h)
  | step hsome _ ih => exact .step hsome ih

/-- Runs at the same moments end in the same way, or neither ends. -/
theorem alone_of_inStep {post : MemoryStore → MemoryStore → α → β → Prop} {p : Proc α}
    {p' : Proc β} (h : InStep fits post s s' p p') {ms : List Moment} (hm : ∀ m ∈ ms, fits m)
    (past past' : Past) :
    (p.alone ms s past = none ∧ p'.alone ms s' past' = none) ∨
      ∃ a b t t' q q', p.alone ms s past = some (a, t, q) ∧
        p'.alone ms s' past' = some (b, t', q') ∧ post t t' a b := by
  induction h generalizing ms past past' with
  | @done s s' a b h => exact .inr ⟨a, b, s, s', past, past', by rw [alone], by rw [alone], h⟩
  | @step s s' c next next' hsome _ ih =>
    cases ms with
    | nil => exact .inl ⟨by rw [alone], by rw [alone]⟩
    | cons m ms =>
      have hfits := hm m List.mem_cons_self
      have hsome := hsome m hfits
      cases hs : s.answer m c with
      | none =>
        rw [hs, Option.isSome_none, eq_comm, Option.isSome_eq_false_iff, Option.isNone_iff_eq_none] at hsome
        exact .inl ⟨by rw [alone, hs], by rw [alone, hsome]⟩
      | some reply =>
        obtain ⟨r, t⟩ := reply
        rw [hs, Option.isSome_some, eq_comm, Option.isSome_iff_exists] at hsome
        obtain ⟨⟨r', t'⟩, hs'⟩ := hsome
        rw [alone, alone, hs, hs']
        exact ih m r t r' t' hfits hs hs' (fun m hmem => hm m (List.mem_cons_of_mem _ hmem)) _ _

theorem InStep.exists_alone {post : MemoryStore → MemoryStore → α → β → Prop} {p : Proc α}
    {p' : Proc β} (h : InStep fits post s s' p p') {moments : Nat → Moment}
    (hfits : ∀ n, fits (moments n)) (hreturns : ∀ n, (moments n).Returns) (past past' : Past) :
    ∃ n, (p.alone ((List.range n).map moments) s past).isSome = true ∧
      (p'.alone ((List.range n).map moments) s' past').isSome = true := by
  induction h generalizing moments past past' with
  | done h => exact ⟨0, rfl, rfl⟩
  | @step s s' c next next' _ _ ih =>
    obtain ⟨⟨r, t⟩, hs⟩ := Option.isSome_iff_exists.mp ((hreturns 0).answer s c)
    obtain ⟨⟨r', t'⟩, hs'⟩ := Option.isSome_iff_exists.mp ((hreturns 0).answer s' c)
    obtain ⟨n, hn, hn'⟩ := ih (moments 0) r t r' t' (hfits 0) hs hs' (fun n => hfits (n + 1))
      (fun n => hreturns (n + 1)) (⟨c, some r⟩ :: past) (⟨c, some r'⟩ :: past')
    refine ⟨n + 1, ?_, ?_⟩
    · rw [List.range_succ_eq_map, List.map_cons, List.map_map, alone, hs]
      exact hn
    · rw [List.range_succ_eq_map, List.map_cons, List.map_map, alone, hs']
      exact hn'

end Interaction

namespace Service

variable {a : GroupAuthorizer} {fits : Moment → Prop} {R : MemoryStore → MemoryStore → Prop}

/-- Over any two stores that are related, with authorization by groups, the operation makes the same
calls and returns the same or fails for the same reason; the stores stay related. `post` holds of what
it returns. -/
def Blind (a : GroupAuthorizer) (fits : Moment → Prop) (R : MemoryStore → MemoryStore → Prop)
    (post : α → Prop) (p : Service α) : Prop :=
  ∀ s s', R s s' →
    Interaction.InStep fits (fun t t' r r' => R t t' ∧ r = r' ∧ ∀ x, r = .ok x → post x) s s'
      (p.authorizedBy a).run (p.authorizedBy a).run

theorem Blind.mono {post post' : α → Prop} {p : Service α} (h : Blind a fits R post p)
    (hp : ∀ x, post x → post' x) : Blind a fits R post' p :=
  fun s s' hR => (h s s' hR).mono fun _ _ _ _ hend =>
    ⟨hend.1, hend.2.1, fun x hx => hp x (hend.2.2 x hx)⟩

theorem blind_pure {post : α → Prop} {x : α} (h : post x) : Blind a fits R post (pure x) := by
  intro s s' hR
  refine .done ⟨hR, rfl, ?_⟩
  rintro _ ⟨⟩
  exact h

theorem blind_throw {post : α → Prop} (e : ServiceError) :
    Blind a fits R post (throw e : Service α) := by
  intro s s' hR
  refine .done ⟨hR, rfl, ?_⟩
  rintro _ ⟨⟩

theorem Blind.bind {post : β → Prop} {post' : α → Prop} {p : Service α} {f : α → Service β}
    (hp : Blind a fits R post' p) (hf : ∀ x, post' x → Blind a fits R post (f x)) :
    Blind a fits R post (p >>= f) := by
  intro s s' hR
  rw [authorizedBy, via_bind]
  refine Interaction.InStep.bind ((hp s s' hR).mono ?_)
  rintro t t' r _ ⟨hR, rfl, hpost⟩
  cases r with
  | error e =>
    have hthrow : Blind a fits R post (throw e : Service β) := blind_throw e
    exact hthrow t t' hR
  | ok x => exact hf x (hpost x rfl) t t' hR

theorem Blind.of_eq {post : α → Prop} {p q : Service α} (h : Blind a fits R post q)
    (hpq : p.authorizedBy a = q.authorizedBy a) : Blind a fits R post p := by
  intro s s' hR
  rw [hpq]
  exact h s s' hR

theorem blind_call (c : Call) (hc : ∀ c', c ≠ .resource (.store c')) (hh : a.handle c = call c)
    {post : c.Reply → Prop}
    (h : ∀ (m : Moment) (s t : MemoryStore) r, fits m → s.answer m c = some (r, t) → post r) :
    Blind (α := no_index c.Reply) a fits R post (call c) := by
  intro s s' hR
  rw [authorizedBy, via_call, hh]
  refine .step (fun m _ => ?_) fun m r t r' t' hm hs hs' => .done ?_
  · obtain ⟨reply, hreply⟩ := MemoryStore.answer_elsewhere m hc
    rw [hreply s, hreply s', Option.isSome_map, Option.isSome_map]
  · have hpost := h m s t r hm hs
    obtain ⟨reply, hreply⟩ := MemoryStore.answer_elsewhere m hc
    rw [hreply, Option.map_eq_some_iff] at hs hs'
    obtain ⟨x, hx, hxt⟩ := hs
    obtain ⟨x', hx', hxt'⟩ := hs'
    rw [hx] at hx'
    cases hx'
    cases hxt
    cases hxt'
    refine ⟨hR, rfl, ?_⟩
    rintro _ ⟨⟩
    exact hpost

theorem blind_now : Blind a fits R (fun _ => True) now :=
  blind_call (.resource .now) (by simp) rfl fun _ _ _ _ _ _ => trivial

theorem blind_freshId :
    Blind a fits R (fun id => ∃ m, fits m ∧ m.surroundings.id = id) freshId := by
  refine blind_call (.resource .freshId) (by simp) rfl fun m s t r hm h => ⟨m, hm, ?_⟩
  cases h
  rfl

theorem blind_count (metric : Metric) : Blind a fits R (fun _ => True) (count metric) :=
  blind_call (.resource (.count metric)) (by simp) rfl fun _ _ _ _ _ _ => trivial

theorem blind_emit (event : AccessEvent) : Blind a fits R (fun _ => True) (emit event) := by
  have hask : Blind a fits R (fun _ => True) (ask (.emit event)) :=
    blind_call (.resource (.emit event)) (by simp) rfl fun _ _ _ _ _ _ => trivial
  exact hask.bind fun _ _ => blind_pure trivial

theorem blind_orNotFound {post : α → Prop} (what : String) {found : Option α}
    (h : ∀ x, found = some x → post x) : Blind a fits R post (orNotFound what found) := by
  cases found with
  | none => exact blind_throw _
  | some x => exact blind_pure (h x rfl)

theorem blind_verdict (answer : Except String Bool) :
    Blind a fits R (fun _ => True) (verdict answer) := by
  cases answer with
  | ok b => exact blind_pure trivial
  | error detail => exact blind_throw _

/-- A call of the store of which something is seen that is the same over related stores. -/
theorem blind_seen {c : StoreCall} {see : c.Value → α} {post : α → Prop}
    (h : ∀ s s', R s s' → (s.perform c).1.map see = (s'.perform c).1.map see ∧
      R (s.perform c).2 (s'.perform c).2 ∧ ∀ x, (s.perform c).1 = .ok x → post (see x)) :
    Blind a fits R post (do return see (← store c)) := by
  intro s s' hR
  obtain ⟨hsame, hR, hpost⟩ := h s s' hR
  rw [authorizedBy, via_bind, via_store (handle_keeps a)]
  refine .step (fun _ _ => rfl) fun m r t r' t' _ hs hs' => ?_
  cases hs
  cases hs'
  cases hc : (s.perform c).1 with
  | ok x =>
    cases hc' : (s'.perform c).1 with
    | ok x' =>
      rw [hc, hc'] at hsame
      have hsee : see x = see x' := Except.ok.inj hsame
      refine .done ⟨hR, congrArg Except.ok hsee, ?_⟩
      rintro _ ⟨⟩
      exact hpost x hc
    | error e' =>
      rw [hc, hc'] at hsame
      cases hsame
  | error e =>
    cases hc' : (s'.perform c).1 with
    | ok x' =>
      rw [hc, hc'] at hsame
      cases hsame
    | error e' =>
      rw [hc, hc'] at hsame
      cases hsame
      refine .done ⟨hR, rfl, ?_⟩
      rintro _ ⟨⟩

/-- A call of the store that is answered the same over related stores. -/
theorem blind_store {c : StoreCall} {post : c.Value → Prop}
    (h : ∀ s s', R s s' → (s.perform c).1 = (s'.perform c).1 ∧
      R (s.perform c).2 (s'.perform c).2 ∧ ∀ x, (s.perform c).1 = .ok x → post x) :
    Blind (α := no_index c.Value) a fits R post (store c) := by
  have hseen : Blind a fits R post (do return id (← store c)) :=
    blind_seen fun s s' hR => by
      obtain ⟨hsame, hrest⟩ := h s s' hR
      exact ⟨congrArg _ hsame, hrest⟩
  exact hseen.of_eq (by rw [authorizedBy, authorizedBy, via_bind]; exact (bind_pure _).symm)

theorem blind_mayRequest {user : User} {targetId : String}
    (h : ∀ s s', R s s' → s.targets = s'.targets) :
    Blind a fits R (fun _ => True) (call (.mayRequest user targetId)) := by
  intro s s' hR
  rw [authorizedBy, via_call]
  refine .step (fun _ _ => rfl) fun m r t r' t' _ hs hs' => ?_
  cases hs
  cases hs'
  refine .done ⟨hR, ?_, fun _ _ => trivial⟩
  show Except.ok (Except.ok (s.targets[targetId]?.any _)) =
    Except.ok (Except.ok (s'.targets[targetId]?.any _))
  rw [h s s' hR]

end Service
end AccessGrants
