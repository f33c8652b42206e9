import AccessGrants.Proofs.Bindings.Agreement
import AccessGrants.Proofs.Bindings.Conduct
import AccessGrants.Proofs.Concurrency.Since

/-!
# AccessGrants.Proofs.Bindings.Refusals

A link that fails because something is linked already names a target group. That a deployment was
assigned to this group while the link was under way is so exactly as long as no assignment is refused
for a reason that lies with the deployment.

* `Held`             — while a task was under way, a deployment was assigned to the target group.
* `Misnames`         — a move by which a link is refused although its target group was free all along.
* `Overtaken`        — what has happened to the deployment of such a link since the link read it.
* `refused_returns`  — a refused link names the target group that it was asked for.
* `held_of_returned` — and all other links that fail so name one that is held.
* `run_truthful_iff` — so a run tells the truth exactly when it has no such move.
-/

namespace AccessGrants
namespace MemoryStore

/-! ## What a call does to a deployment -/

/-- The provider that a stored deployment runs. -/
def providerOf (s : MemoryStore) (id : String) : Option Provider :=
  s.deployments[id]?.map (·.provider)

theorem providerOf_insert {s s' : MemoryStore} {k : String} {d : Deployment} (d' : Deployment)
    (h : s'.deployments = s.deployments.insert k d') (hd : s.deployments[k]? = some d)
    (hp : d'.provider = d.provider) (id : String) : s'.providerOf id = s.providerOf id := by
  simp only [providerOf, h, getElem?_insert_row]
  split
  · rename_i hk
    subst hk
    rw [hd, Option.map_some, Option.map_some, hp]
  · rfl

theorem perform_providerOf_ne {s : MemoryStore} {c : StoreCall} {id : String}
    (h : (s.perform c).2.providerOf id ≠ s.providerOf id) :
    ∃ d guard, c = .upsertDeployment d guard ∧ d.id = id ∧
      (s.perform c).2.providerOf id = some d.provider := by
  cases c with
  | upsertDeployment d guard =>
    simp only [perform, upsertDeployment] at h ⊢
    split at h
    · rename_i hallow
      simp only [providerOf, getElem?_insert_row, if_pos hallow] at h ⊢
      split at h
      · rename_i hid
        exact ⟨d, guard, rfl, hid, by rw [if_pos hid]; rfl⟩
      · exact absurd rfl h
    · exact absurd rfl h
  | assignDeployment k p a =>
    refine absurd ?_ h
    simp only [perform, assignDeployment]
    split
    · rfl
    · rename_i d hd
      split
      · rfl
      · split
        · rfl
        · exact providerOf_insert { d with assignment := some a } rfl hd rfl id
  | clearAssignment k g =>
    refine absurd ?_ h
    simp only [perform, clearAssignment]
    split
    · rfl
    · rename_i d hd
      split
      · rfl
      · exact providerOf_insert { d with assignment := none } rfl hd rfl id
  | _ =>
    refine absurd ?_ h
    rw [providerOf, perform_deployments]
    rfl

theorem deployment_stays {s : MemoryStore} {id : String} {d : Deployment}
    (h : s.deployments[id]? = some d) (c : StoreCall) :
    ∃ d' : Deployment, (s.perform c).2.deployments[id]? = some d' := by
  by_cases hp : (s.perform c).2.providerOf id = s.providerOf id
  · rw [providerOf, providerOf, h, Option.map_some, Option.map_eq_some_iff] at hp
    obtain ⟨d', hd', -⟩ := hp
    exact ⟨d', hd'⟩
  · obtain ⟨_, _, -, -, hstored⟩ := perform_providerOf_ne hp
    obtain ⟨d', hd', -⟩ := Option.map_eq_some_iff.mp hstored
    exact ⟨d', hd'⟩

theorem perform_assigned {s : MemoryStore} {c : StoreCall} {id : String} {a : Assignment}
    (hbefore : s.assignmentOf id ≠ some a) (hafter : (s.perform c).2.assignmentOf id = some a) :
    ∃ provider, c = .assignDeployment id provider a := by
  have hchanged : (s.perform c).2.assignmentOf id ≠ s.assignmentOf id :=
    fun h => hbefore (h.symm.trans hafter)
  rcases perform_assignmentOf_ne hchanged with ⟨provider, b, rfl⟩ | ⟨g, rfl⟩
  · rcases assignDeployment_view s id provider b with hs | ⟨-, -, -, hv⟩
    · exact absurd (by rw [perform, hs]) hchanged
    · rw [perform, hv, if_pos rfl, Option.some.injEq] at hafter
      exact ⟨provider, by rw [hafter]⟩
  · rcases clearAssignment_view s id g with hs | ⟨-, -, hv⟩
    · exact absurd (by rw [perform, hs]) hchanged
    · rw [perform, hv, if_pos rfl] at hafter
      cases hafter

theorem assign_refused {s : MemoryStore} (h : s.LinksAgree) {id : String} {provider : Provider}
    {a : Assignment} (hr : (s.assignDeployment id provider a).1 = .error .conditionFailed) :
    s.deployments[id]? = none ∨
    (∃ d : Deployment, s.deployments[id]? = some d ∧
      ((∃ b, d.assignment = some b) ∨ d.provider ≠ provider)) ∨
    ∃ k, s.Assigned k a.targetGroupId := by
  unfold assignDeployment at hr
  split at hr
  · rename_i hd
    exact .inl hd
  · rename_i d hd
    split at hr
    · rename_i hcase
      exact .inr (.inl ⟨d, hd, hcase.imp_left Option.isSome_iff_exists.mp⟩)
    · split at hr
      · rename_i hlink
        rw [Std.ExtTreeMap.contains_eq_isSome_getElem?] at hlink
        obtain ⟨k, hk⟩ := Option.isSome_iff_exists.mp hlink
        exact .inr (.inr ⟨k, (h _ _).mp hk⟩)
      · cases hr

end MemoryStore

open Exchange Operation

namespace Pool

section Links

variable {rules : ServiceRules} {view : Surroundings → Surroundings} {w₀ w : World}
  {s : (services rules view).State} {log newer older : List (services rules view).Entry}

/-! ## A refused assignment -/

theorem link_of_pending (h : Keeps (S := services rules view) (conduct rules) (report rules) w₀ s)
    {i : Nat} {id : String} {provider : Provider} {a : Assignment}
    (hp : pending s i = some (.resource (.store (.assignDeployment id provider a)))) :
    ∃ priority next,
      s.tasks[i]? = some ⟨.linkDeployment a.targetGroupId id priority,
        some (.step (.resource (.store (.assignDeployment id provider a))) next)⟩ ∧
      Quiet (past s.log i) ∧ ∃ seen : Deployment, seen.assignment = none ∧
        seen.provider = provider ∧
        ⟨.resource (.store (.getDeployment id)), some (.ok (some seen))⟩ ∈ past s.log i := by
  obtain ⟨o, next, hi⟩ := pending_eq_some.mp hp
  obtain ⟨hstep, -⟩ := h.rests i _ _ hi
  obtain ⟨priority, rfl⟩ := conduct_assign hstep
  obtain ⟨hquiet, hq | ⟨seen, b, hcall, -, hfree, hread⟩⟩ := hstep
  · cases hq
  · cases hcall
    exact ⟨priority, next, hi, hquiet, seen, hfree, rfl, hread⟩

theorem refused_returns (h : Keeps (S := services rules view) (conduct rules) (report rules) w₀ s)
    {i : Nat} {id : String} {provider : Provider} {a : Assignment} (x : Surroundings)
    (hp : pending s i = some (.resource (.store (.assignDeployment id provider a))))
    (hr : (s.world.store.assignDeployment id provider a).1 = .error .conditionFailed) :
    ∃ priority, Returned (proceed s i x) i (.linkDeployment a.targetGroupId id priority)
      (.error (.alreadyLinked a.targetGroupId)) := by
  obtain ⟨priority, next, hi, -⟩ := link_of_pending h hp
  have hw : s.world.perform (view x) (.resource (.store (.assignDeployment id provider a))) =
      some (.error .conditionFailed,
        { s.world with store := (s.world.store.assignDeployment id provider a).2 }) := by
    rw [World.perform, MemoryStore.perform, hr]
  have hstep := proceed_eq (S := services rules view) hi hw
  have hlt := (List.getElem?_eq_some_iff.mp hi).1
  have hrest : (proceed s i x).tasks[i]? = some
      ⟨.linkDeployment a.targetGroupId id priority, some (next (.error .conditionFailed))⟩ := by
    rw [hstep]
    simp [hlt]
  have hrefused : AssignRefused a.targetGroupId (past (proceed s i x).log i) := by
    rw [hstep, past_cons_self]
    exact ⟨id, provider, a, rfl, List.mem_cons_self⟩
  have hnext := (h.proceed i x).rests i _ _ hrest
  refine ⟨priority, hrest.trans ?_⟩
  -- a refusal lets a link make no further call, and return nothing else
  cases hend : next (.error .conditionFailed) with
  | done r =>
    rw [hend] at hnext
    cases r with
    | ok group => exact absurd hrefused hnext
    | error e => rw [hnext.refused hrefused]
  | step c after =>
    rw [hend] at hnext
    exact absurd hrefused hnext.1.1.not_assignRefused
  | overflow =>
    rw [hend] at hnext
    exact hnext.elim

/-! ## What came in between -/

theorem Trace.assigned_since
    (h : Trace (S := services rules view) (conduct rules) w₀ w log) {i : Nat} {o : Operation}
    {id : String} {seen : Deployment} {b : Assignment}
    (hlog : log =
      newer ++ ⟨i, o, .resource (.store (.getDeployment id)), some (.ok (some seen))⟩ :: older)
    (hfree : seen.assignment = none) (hnow : w.store.assignmentOf id = some b) :
    ∃ e ∈ newer, (∃ priority, e.op = .linkDeployment b.targetGroupId id priority) ∧
      ∃ provider, wrote? e.exchange = some (.assignDeployment id provider b) := by
  rcases h.since (fun s => s.assignmentOf id = some b) hlog hnow with
    ⟨w₁, ht, hthen⟩ | ⟨e, he, c, s, hex, hbefore, hafter⟩
  · rw [MemoryStore.assignmentOf, ht.deployment_read] at hthen
    cases hfree.symm.trans hthen
  · obtain ⟨provider, rfl⟩ := MemoryStore.perform_assigned hbefore hafter
    obtain ⟨past, hstep⟩ := h.rule_of_mem (hlog ▸ List.mem_append_left _ he)
    rw [hex] at hstep
    refine ⟨e, he, conduct_assign hstep, provider, ?_⟩
    rw [hex]
    exact MemoryStore.wrote_of_perform_ne fun hs => hbefore (hs ▸ hafter)

theorem Trace.replaced_since
    (h : Trace (S := services rules view) (conduct rules) w₀ w log) {i : Nat} {o : Operation}
    {id : String} {seen stored : Deployment}
    (hlog : log =
      newer ++ ⟨i, o, .resource (.store (.getDeployment id)), some (.ok (some seen))⟩ :: older)
    (hnow : w.store.deployments[id]? = some stored) (hne : stored.provider ≠ seen.provider) :
    ∃ e ∈ newer, ∃ d guard, e.op = .registerDeployment d ∧ d.id = id ∧
      d.provider = stored.provider ∧ wrote? e.exchange = some (.upsertDeployment d guard) := by
  have hprovider : w.store.providerOf id = some stored.provider := by
    rw [MemoryStore.providerOf, hnow, Option.map_some]
  rcases h.since (fun s => s.providerOf id = some stored.provider) hlog hprovider with
    ⟨w₁, ht, hthen⟩ | ⟨e, he, c, s, hex, hbefore, hafter⟩
  · rw [MemoryStore.providerOf, ht.deployment_read, Option.map_some, Option.some.injEq] at hthen
    exact absurd hthen.symm hne
  · obtain ⟨d, guard, rfl, hid, hd⟩ :=
      MemoryStore.perform_providerOf_ne fun h => hbefore (h.symm.trans hafter)
    obtain ⟨past, hstep⟩ := h.rule_of_mem (hlog ▸ List.mem_append_left _ he)
    rw [hex] at hstep
    refine ⟨e, he, d, guard, conduct_upsert hstep, hid,
      Option.some.inj (hd.symm.trans hafter), ?_⟩
    rw [hex]
    exact MemoryStore.wrote_of_perform_ne fun hs => hbefore (hs ▸ hafter)

theorem Trace.still_stored
    (h : Trace (S := services rules view) (conduct rules) w₀ w log) {i : Nat} {o : Operation}
    {id : String} {seen : Deployment}
    (hlog : log =
      newer ++ ⟨i, o, .resource (.store (.getDeployment id)), some (.ok (some seen))⟩ :: older) :
    w.store.deployments[id]? ≠ none := by
  intro hmissing
  rcases h.since (fun s => s.deployments[id]? = none) hlog hmissing with
    ⟨w₁, ht, hthen⟩ | ⟨e, -, c, s, -, hbefore, hafter⟩
  · cases ht.deployment_read.symm.trans hthen
  · obtain ⟨d, hd⟩ := Option.ne_none_iff_exists'.mp hbefore
    obtain ⟨d', hd'⟩ := MemoryStore.deployment_stays hd c
    cases hd'.symm.trans hafter

/-- What has become of the deployment of a link since the link has read it, free and with this
provider: a link has assigned it to another target group, or a registration has replaced the
provider. -/
def Overtaken (s : (services rules view).State) (i : Nat) (g id : String) (provider : Provider) :
    Prop :=
  ∃ newer o seen older stored,
    s.log = newer ++ ⟨i, o, .resource (.store (.getDeployment id)), some (.ok (some seen))⟩ :: older ∧
    seen.assignment = none ∧ seen.provider = provider ∧
    s.world.store.deployments[id]? = some stored ∧
    ((∃ b, stored.assignment = some b ∧ b.targetGroupId ≠ g ∧
      ∃ e ∈ newer, e.task ≠ i ∧ (∃ priority, e.op = .linkDeployment b.targetGroupId id priority) ∧
        ∃ p, wrote? e.exchange = some (.assignDeployment id p b)) ∨
    stored.provider ≠ provider ∧
      ∃ e ∈ newer, e.task ≠ i ∧ ∃ d guard, e.op = .registerDeployment d ∧ d.id = id ∧
        d.provider = stored.provider ∧ wrote? e.exchange = some (.upsertDeployment d guard))

theorem task_ne_of_wrote {i : Nat} (hquiet : Quiet (past log i))
    {e : (services rules view).Entry} (he : e ∈ log) {c : StoreCall}
    (hwrote : wrote? e.exchange = some c) (hc : c.isQuiet = false) : e.task ≠ i := by
  rintro rfl
  have hcall := hquiet e.exchange (mem_past.mpr ⟨e, he, rfl, rfl⟩)
  rw [wrote?_eq_some hwrote] at hcall
  exact absurd hcall (by simp [Call.isQuiet, hc])

/-- An assignment that is refused while its target group is free is refused because of what has
become of the deployment. -/
theorem overtaken_of_refused
    (h : Keeps (S := services rules view) (conduct rules) (report rules) w₀ s)
    (hlinks : s.world.store.LinksAgree) {i : Nat} {id : String} {provider : Provider}
    {a : Assignment}
    (hp : pending s i = some (.resource (.store (.assignDeployment id provider a))))
    (hr : (s.world.store.assignDeployment id provider a).1 = .error .conditionFailed)
    (hfree : ∀ k, ¬ s.world.store.Assigned k a.targetGroupId) :
    Overtaken s i a.targetGroupId id provider := by
  obtain ⟨priority, next, hi, hquiet, seen, hunbound, rfl, hread⟩ := link_of_pending h hp
  obtain ⟨before, after, hpast⟩ := List.append_of_mem hread
  obtain ⟨newer, o, older, hlog, -, -⟩ := past_split hpast
  have others {e : (services rules view).Entry} (he : e ∈ newer) {c : StoreCall}
      (hwrote : wrote? e.exchange = some c) (hc : c.isQuiet = false) : e.task ≠ i :=
    task_ne_of_wrote hquiet (hlog ▸ List.mem_append_left _ he) hwrote hc
  rcases MemoryStore.assign_refused hlinks hr with
    hmissing | ⟨stored, hstored, ⟨b, hb⟩ | hprovider⟩ | ⟨k, hk⟩
  · exact absurd hmissing (h.trace.still_stored hlog)
  · have hnow : s.world.store.assignmentOf id = some b := by
      rw [MemoryStore.assignmentOf, hstored]
      exact hb
    obtain ⟨e, he, hop, p, hwrote⟩ := h.trace.assigned_since hlog hunbound hnow
    refine ⟨newer, o, seen, older, stored, hlog, hunbound, rfl, hstored, .inl ⟨b, hb, ?_, e, he,
      others he hwrote rfl, hop, p, hwrote⟩⟩
    intro hg
    exact hfree id (MemoryStore.assigned_iff.mpr ⟨b, hnow, hg⟩)
  · obtain ⟨e, he, d, guard, hop, hid, hd, hwrote⟩ := h.trace.replaced_since hlog hstored hprovider
    exact ⟨newer, o, seen, older, stored, hlog, hunbound, rfl, hstored, .inr ⟨hprovider, e, he,
      others he hwrote rfl, d, guard, hop, hid, hd, hwrote⟩⟩
  · exact absurd hk (hfree k)

/-! ## A run -/

section Run

variable (at_ : Nat → (services rules view).State)

/-- In one of the states up to this one, since the task was started, a deployment was assigned to the
target group. -/
def Held (i : Nat) (t : String) (n : Nat) : Prop :=
  ∃ k ≤ n, i < (at_ k).tasks.length ∧ ∃ id, (at_ k).world.store.Assigned id t

/-- The move is the refused assignment of a link whose target group was free since the link was
started. -/
def Misnames (n : Nat) (m : (services rules view).Move) : Prop :=
  ∃ i x id provider a, m = .proceed i x ∧
    pending (at_ n) i = some (.resource (.store (.assignDeployment id provider a))) ∧
    ((at_ n).world.store.assignDeployment id provider a).1 = .error .conditionFailed ∧
    ¬ Held at_ i a.targetGroupId n

theorem Held.mono {i n n' : Nat} {t : String} (hle : n ≤ n') (h : Held at_ i t n) :
    Held at_ i t n' := by
  obtain ⟨k, hk, h⟩ := h
  exact ⟨k, Nat.le_trans hk hle, h⟩

end Run

section States

variable {pageSize : Nat} {clock : Instant} {moves : List (services rules view).Move}

theorem states_keep (n : Nat) : Keeps (S := services rules view) (conduct rules) (report rules)
    (World.fresh pageSize clock) (states pageSize clock moves n) :=
  services_conduct rules view _ (moves.take n)

theorem states_linksAgree (n : Nat) : (states pageSize clock moves n).world.store.LinksAgree :=
  (states_keep n).trace.invariant (MemoryStore.empty_agree pageSize)
    fun _ c h => MemoryStore.perform_agree h c

theorem held_of_returned {n i : Nat} {g id t : String} {priority : Int}
    (h : Returned (states pageSize clock moves n) i (.linkDeployment g id priority)
      (.error (.alreadyLinked t)))
    (hm : ∀ k m, moves[k]? = some m → ¬ Misnames (states pageSize clock moves) k m) :
    Held (states pageSize clock moves) i t n := by
  cases ((states_keep n).returned h).named t rfl with
  | occupied hread =>
    obtain ⟨k, hk, x, -, hp, hfound⟩ := exists_answered hread
    obtain ⟨id', hid', hassigned⟩ :=
      (states_linksAgree k).findDeployment_eq_some.mp (Except.ok.inj hfound).symm
    exact ⟨k, (Nat.le_of_lt hk), lt_length_of_pending hp, id', _, hid', hassigned⟩
  | bound hread ha =>
    obtain ⟨k, hk, x, -, hp, hfound⟩ := exists_answered hread
    refine ⟨k, (Nat.le_of_lt hk), lt_length_of_pending hp, id, _, (Except.ok.inj hfound).symm, ?_⟩
    exact MemoryStore.assignedTo_iff.mpr ⟨_, ha, rfl⟩
  | refused hr =>
    obtain ⟨id', provider, a, rfl, hr⟩ := hr
    obtain ⟨k, hk, x, hmove, hp, hrefused⟩ := exists_answered hr
    have hheld : Held (states pageSize clock moves) i a.targetGroupId k :=
      Classical.byContradiction fun hfree =>
        hm k _ hmove ⟨i, x, id', provider, a, rfl, hp, hrefused.symm, hfree⟩
    exact hheld.mono _ (Nat.le_of_lt hk)

/-- What follows a move by which a link is refused although its target group was free all along. -/
theorem misnamed {n : Nat} {m : (services rules view).Move} (hmove : moves[n]? = some m)
    (h : Misnames (states pageSize clock moves) n m) :
    ∃ i x g id provider priority, m = .proceed i x ∧
      Returned (states pageSize clock moves (n + 1)) i (.linkDeployment g id priority)
        (.error (.alreadyLinked g)) ∧
      ¬ Held (states pageSize clock moves) i g (n + 1) ∧
      Overtaken (states pageSize clock moves n) i g id provider := by
  obtain ⟨i, x, id, provider, a, rfl, hp, hr, hfree⟩ := h
  have hlt := lt_length_of_pending hp
  have hnext : states pageSize clock moves (n + 1) = proceed (states pageSize clock moves n) i x :=
    run_take_succ _ hmove
  obtain ⟨priority, hreturned⟩ := refused_returns (states_keep n) x hp hr
  refine ⟨i, x, a.targetGroupId, id, provider, priority, rfl, hnext ▸ hreturned, ?_,
    overtaken_of_refused (states_keep n) (states_linksAgree n) hp hr
      fun k hk => hfree ⟨n, Nat.le_refl n, hlt, k, hk⟩⟩
  rintro ⟨k, hk, hstarted, hassigned⟩
  rcases Nat.lt_or_eq_of_le hk with hk | rfl
  · exact hfree ⟨k, Nat.le_of_lt_succ hk, hstarted, hassigned⟩
  · -- a refused assignment changes nothing
    rw [hnext, proceed_store hp,
      MemoryStore.perform_of_error (c := .assignDeployment id provider a) hr] at hassigned
    exact hfree ⟨n, Nat.le_refl n, hlt, hassigned⟩

end States

/-- However operations are interleaved over an empty store, and whatever they are answered: all links
that have failed because something is linked name a target group to which a deployment was assigned
while they were under way, exactly when no move of the run refuses a link whose target group was free
all along. Such a link had read its deployment free; since then another link has assigned the
deployment elsewhere, or a registration has replaced its provider. -/
theorem run_truthful_iff (rules : ServiceRules) (view : Surroundings → Surroundings) (pageSize : Nat)
    (clock : Instant) (moves : List (services rules view).Move) :
    let at_ := states pageSize clock moves
    ((∀ n i g id priority t,
        Returned (at_ n) i (.linkDeployment g id priority) (.error (.alreadyLinked t)) →
        Held at_ i t n) ↔
      ∀ n m, moves[n]? = some m → ¬ Misnames at_ n m) ∧
    ∀ n m, moves[n]? = some m → Misnames at_ n m →
      ∃ i x g id provider priority, m = .proceed i x ∧
        Returned (at_ (n + 1)) i (.linkDeployment g id priority) (.error (.alreadyLinked g)) ∧
        ¬ Held at_ i g (n + 1) ∧ Overtaken (at_ n) i g id provider := by
  intro at_
  refine ⟨⟨fun h n m hmove hm => ?_, fun h n i g id priority t hr => held_of_returned hr h⟩,
    fun n m => misnamed⟩
  obtain ⟨i, x, g, id, provider, priority, -, hreturned, hfree, -⟩ := misnamed hmove hm
  exact hfree (h (n + 1) i g id priority g hreturned)

end Links

/-! ## A lost race -/

namespace Elsewhere

/-- What a call assigns to whom. -/
def assigns? : Call → Option (String × Provider × Assignment)
  | .resource (.store (.assignDeployment id provider a)) => some (id, provider, a)
  | _ => none

theorem eq_of_assigns? {c : Option Call} {id : String} {provider : Provider} {a : Assignment}
    (h : c.bind assigns? = some (id, provider, a)) :
    c = some (.resource (.store (.assignDeployment id provider a))) := by
  obtain ⟨c, rfl, hc⟩ := Option.bind_eq_some_iff.mp h
  unfold assigns? at hc
  split at hc
  · cases hc
    rfl
  · cases hc

/-- One call of a task, where every provider declares its own version as the schema. -/
def call (task : Nat) : (services ⟨.enforced, .standard⟩).Move :=
  .proceed task { Surroundings.plain with
    registry := fun provider => .ok ⟨200, some ⟨provider, .string provider.version⟩, ""⟩ }

def vault : Provider := ⟨"acme", "vault", "1"⟩

/-- Two target groups want one deployment. Between the reads and the write of the link to the first
one, the link to the second one goes through. -/
def moves : List (services ⟨.enforced, .standard⟩).Move :=
  .start (Operation.createTargetGroup "g" "acme/vault@1") :: List.replicate 4 (call 0) ++
  .start (Operation.createTargetGroup "h" "acme/vault@1") :: List.replicate 4 (call 1) ++
  .start (Operation.registerDeployment ⟨"d", vault, none, [], none⟩) :: List.replicate 2 (call 2) ++
  .start (Operation.linkDeployment "g" "d" 0) :: List.replicate 4 (call 3) ++
  .start (Operation.linkDeployment "h" "d" 0) :: List.replicate 5 (call 4) ++
  [call 3]

/-- No deployment is ever assigned to the first target group, but its link is refused for it. -/
theorem moves_misname : Misnames (states 50 ⟨0, 0⟩ moves) 24 (call 3) := by
  refine ⟨3, _, "d", vault, ⟨"g", 0, []⟩, rfl, eq_of_assigns? (by decide +kernel),
    by decide +kernel, ?_⟩
  rintro ⟨k, hk, -, id, hassigned⟩
  have hfree : ∀ k ≤ 24, (states 50 ⟨0, 0⟩ moves k).world.store.findDeployment "g" = none := by
    decide +kernel
  exact (states_linksAgree k).findDeployment_eq_none.mp (hfree k hk) id hassigned

/-- The run ends with a link that says that the first target group is linked. -/
theorem moves_untruthful : ¬ ∀ n i g id priority t,
    Returned (states 50 ⟨0, 0⟩ moves n) i (.linkDeployment g id priority) (.error (.alreadyLinked t)) →
    Held (states 50 ⟨0, 0⟩ moves) i t n := by
  intro h
  obtain ⟨i, x, g, id, provider, priority, -, hreturned, hfree, -⟩ := misnamed rfl moves_misname
  exact hfree (h 25 i g id priority g hreturned)

end Elsewhere
end Pool
end AccessGrants
