import AccessGrants.Proofs.Concurrency.Handlers
import AccessGrants.Proofs.Concurrency.Operations
import AccessGrants.Proofs.Preflights.Grouping
import AccessGrants.Proofs.Preflights.Ownership

/-!
# AccessGrants.Proofs.Preflights.Visibility

Drafts and updates of the catalogue side by side, with authorization by groups. A draft looks every
target up twice: to authorize its user, and to copy it. So a preflight shows its user what he may not
request exactly when a target was hidden from him in between.

* `Swapped`       — a look found hidden what an earlier look found visible.
* `shows_iff`     — a preflight holds what the second looks have found.
* `put_since`     — a target that has changed since a look was put since then.
* `run_shown_iff` — a run shows nothing hidden exactly when no draft that stored was swapped.
-/

namespace AccessGrants

/-- What was looked up, and what was found. -/
def Exchange.looked? : Exchange Call.Reply → Option (String × Option Target)
  | ⟨.resource (.store (.getTarget id)), some (.ok found)⟩ => some (id, found)
  | _ => none

open Exchange Interaction

/-- Drafts by any users, and updates of the catalogue. -/
inductive DraftOperation where
  | draft (user : User) (targetIds : List String)
  | put (target : Target)
  deriving DecidableEq

namespace DraftOperation

abbrev Result : DraftOperation → Type
  | draft _ _ => Preflight
  | put _ => Target

def program : (o : DraftOperation) → Service o.Result
  | draft user targetIds => Preflights.createPreflight user targetIds
  | put target => Catalogue.putTarget target

end DraftOperation

/-- The preflight shows a user visible targets only. -/
def Preflight.Shows (p : Preflight) (user : User) : Prop :=
  ∀ g ∈ p.accessGroups, ∀ t ∈ g.targets, t.visibleTo user.groups = true

/-- A target that was visible to the user when it was looked up is hidden when it is looked up
again. -/
def Swapped (user : User) (past : Past) : Prop :=
  ∃ newer older id t seen, told looked? past = newer ++ (id, some t) :: older ∧
    (id, some seen) ∈ older ∧ seen.visibleTo user.groups = true ∧
    t.visibleTo user.groups = false

/-! ## What a draft does -/

/-- A target that was authorized as one version and copied as another. -/
structure Pick where
  id : String
  checked : Target
  kept : Target

namespace Pick

/-- The looks of some picks, newest first. -/
def looks : List Pick → List (String × Option Target)
  | [] => []
  | k :: rest => (k.id, some k.kept) :: (k.id, some k.checked) :: looks rest

theorem mem_looks {picks : List Pick} {l : String × Option Target} (h : l ∈ looks picks) :
    l.1 ∈ picks.map (·.id) := by
  induction picks with
  | nil => cases h
  | cons k rest ih =>
    rw [looks, List.mem_cons, List.mem_cons] at h
    rw [List.map_cons, List.mem_cons]
    rcases h with rfl | rfl | h
    · exact .inl rfl
    · exact .inl rfl
    · exact .inr (ih h)

/-- Of two looks at one target the later one is the copy. -/
theorem kept_of_looks {picks : List Pick} (hn : (picks.map (·.id)).Nodup)
    {newer older : List (String × Option Target)} {id : String} {t seen : Target}
    (h : looks picks = newer ++ (id, some t) :: older) (hseen : (id, some seen) ∈ older) :
    ∃ k ∈ picks, k.kept = t := by
  induction picks generalizing newer with
  | nil => simp [looks] at h
  | cons k rest ih =>
    obtain ⟨hk, hrest⟩ := List.nodup_cons.mp hn
    match newer with
    | [] =>
      simp only [looks, List.nil_append, List.cons.injEq, Prod.mk.injEq, Option.some.injEq] at h
      exact ⟨k, List.mem_cons_self, h.1.2⟩
    | [_] =>
      simp only [looks, List.singleton_append, List.cons.injEq, Prod.mk.injEq] at h
      obtain ⟨-, ⟨rfl, -⟩, rfl⟩ := h
      exact absurd (mem_looks hseen) hk
    | _ :: _ :: newer =>
      simp only [looks, List.cons_append, List.cons.injEq] at h
      obtain ⟨k', hk', ht⟩ := ih hrest h.2.2
      exact ⟨k', List.mem_cons_of_mem _ hk', ht⟩

theorem looks_of_mem {picks : List Pick} {k : Pick} (h : k ∈ picks) :
    ∃ newer older, looks picks = newer ++ (k.id, some k.kept) :: older ∧
      (k.id, some k.checked) ∈ older := by
  induction picks with
  | nil => cases h
  | cons k' rest ih =>
    rcases List.mem_cons.mp h with rfl | h
    · exact ⟨[], _, rfl, List.mem_cons_self⟩
    · obtain ⟨newer, older, heq, hmem⟩ := ih h
      exact ⟨_ :: _ :: newer, older, by rw [looks, heq]; rfl, hmem⟩

end Pick

/-- The looks of a past are those of some picks, each authorized before it was copied. -/
structure Picked (user : User) (past : Past) (picks : List Pick) : Prop where
  looks : told looked? past = Pick.looks picks
  distinct : (picks.map (·.id)).Nodup
  authorized : ∀ k ∈ picks, k.checked.visibleTo user.groups = true

section Picked

variable {user : User} {past : Past} {picks : List Pick}

theorem Picked.cons (h : Picked user past picks) {id : String} {checked kept : Target}
    (hid : id ∉ picks.map (·.id)) (hv : checked.visibleTo user.groups = true) :
    Picked user (⟨.resource (.store (.getTarget id)), some (.ok (some kept))⟩ ::
      ⟨.resource (.store (.getTarget id)), some (.ok (some checked))⟩ :: past)
      (⟨id, checked, kept⟩ :: picks) where
  looks := by simp [looked?, Pick.looks, h.looks]
  distinct := List.nodup_cons.mpr ⟨hid, h.distinct⟩
  authorized := by
    intro k hk
    rcases List.mem_cons.mp hk with rfl | hk
    · exact hv
    · exact h.authorized k hk

theorem Picked.mute (h : Picked user past picks) {e : Exchange Call.Reply} (he : looked? e = none) :
    Picked user (e :: past) picks where
  looks := by simp [he, h.looks]
  distinct := h.distinct
  authorized := h.authorized

end Picked

namespace DraftOperation

/-- A draft makes all of its looks before it stores the preflight, with what it has copied under an
id that was handed out for it. -/
def rule : DraftOperation → Past → Call → Prop
  | draft _ _, past, .resource (.store (.getTarget _)) => told drafted? past = []
  | draft _ _, _, .resource .freshId => True
  | draft user _, past, .resource (.store (.putPreflight p)) =>
    told drafted? past = [] ∧ p.userId = user.id ∧ p.id ∈ told issued? past ∧
      ∃ picks, Picked user past picks ∧
        ∀ t, (∃ g ∈ p.accessGroups, t ∈ g.targets) ↔ ∃ k ∈ picks, k.kept = t
  | draft _ _, _, .resource .now | draft _ _, _, .resource (.count _) => True
  | draft _ _, _, _ => False
  | put target, _, c => c = .resource (.store (.putTarget target))

variable {a : GroupAuthorizer} {user : User} {past : Past}

theorem mayRequest_obeys {rule : Past → Call → Prop} {id : String}
    (hr : rule past (.resource (.store (.getTarget id)))) :
    (Service.ofResources ((Call.mayRequest user id).locally a)).Obeys rule
      (fun past' answer => ∃ reply, past' = ⟨.resource (.store (.getTarget id)), some reply⟩ :: past ∧
        (answer = .ok true → ∃ t, reply = .ok (some t) ∧ t.visibleTo user.groups = true))
      (fun _ _ => False) past := by
  simp only [Call.locally, GroupAuthorizer.mayRequest, Service.ofResources_bind,
    Service.ofResources_call, Service.obeys_bind, Service.obeys_ask]
  refine ⟨hr, ?_⟩
  rintro (e | found)
  · exact ⟨_, rfl, by simp⟩
  · refine ⟨_, rfl, fun h => ?_⟩
    cases found with
    | none => simp at h
    | some t => exact ⟨t, rfl, by simpa using h⟩

theorem resolve_obeys (all : List String) (ids : List String) {picks : List Pick}
    (hd : told drafted? past = []) (hp : Picked user past picks)
    (hn : (picks.map (·.id) ++ ids).Nodup) :
    ((Preflights.resolve user ids).locally a).Obeys (rule (.draft user all))
      (fun past' targets => told drafted? past' = [] ∧
        ∃ new : List Pick, Picked user past' (new.reverse ++ picks) ∧ targets = new.map (·.kept))
      (fun _ _ => True) past := by
  induction ids generalizing past picks with
  | nil => exact ⟨hd, [], hp, rfl⟩
  | cons id ids ih =>
    have hid : id ∉ picks.map (·.id) := fun hmem =>
      (List.nodup_append.mp hn).2.2 id hmem id List.mem_cons_self rfl
    simp only [Service.locally, Preflights.resolve, Service.via_bind, Service.via_call,
      Service.via_verdict, Service.obeys_bind]
    have hask : rule (.draft user all) past (.resource (.store (.getTarget id))) := hd
    refine (mayRequest_obeys hask).mono (fun past₁ answer h₁ => ?_) fun _ _ => False.elim
    obtain ⟨reply, rfl, hvis⟩ := h₁
    rw [Service.obeys_verdict]
    refine ⟨fun may hmay => ?_, fun _ _ => trivial⟩
    cases may with
    | false =>
      simp only [Bool.false_eq_true, if_false, Service.via_bind, Service.via_throw,
        Service.via_count (Service.locally_keeps a), Service.obeys_bind, Service.obeys_count]
      exact ⟨trivial, trivial⟩
    | true =>
      obtain ⟨checked, rfl, hv⟩ := hvis hmay
      simp only [if_true, Service.via_bind, Service.via_store (Service.locally_keeps a),
        Service.via_orNotFound, Service.obeys_bind, Service.obeys_store, Service.obeys_orNotFound]
      refine ⟨hd, fun found => ⟨fun kept hkept => ?_, fun _ => trivial⟩, fun _ => trivial⟩
      subst hkept
      have hnext : ((⟨id, checked, kept⟩ :: picks : List Pick).map (·.id) ++ ids).Nodup := by
        rw [List.map_cons, List.cons_append]
        exact List.perm_middle.nodup_iff.mp hn
      refine (ih ?_ (hp.cons hid hv) hnext).mono (fun past' targets h => ?_) fun _ _ h => h
      · exact hd
      · obtain ⟨hd', new, hp', rfl⟩ := h
        refine ⟨hd', ⟨id, checked, kept⟩ :: new, ?_, rfl⟩
        simpa using hp'

theorem nameGroups_obeys (all : List String) (groups : List (String × List Target))
    {picks : List Pick} (hp : Picked user past picks) (hd : told drafted? past = []) :
    ((Preflights.nameGroups groups).locally a).Obeys (rule (.draft user all))
      (fun past' named => told drafted? past' = [] ∧ Picked user past' picks ∧
        named.map (·.targets) = groups.map (·.2)) (fun _ _ => True) past := by
  induction groups generalizing past with
  | nil => exact ⟨hd, hp, rfl⟩
  | cons group groups ih =>
    obtain ⟨rule, targets⟩ := group
    simp only [Service.locally, Preflights.nameGroups, Service.via_bind,
      Service.via_freshId (Service.locally_keeps a), Service.obeys_bind, Service.obeys_freshId]
    refine ⟨trivial, fun id => ?_⟩
    have hp₁ : Picked user (⟨.resource .freshId, some id⟩ :: past) picks := hp.mute rfl
    refine (ih hp₁ hd).mono (fun past' named h => ?_) fun _ _ h => h
    obtain ⟨hd', hp', hnamed⟩ := h
    exact ⟨hd', hp', by simp [hnamed]⟩

theorem createPreflight_obeys (ids : List String) :
    ((Preflights.createPreflight user ids).locally a).Obeys (rule (.draft user ids))
      (fun _ _ => True) (fun _ _ => True) [] := by
  have hcount := fun m => Service.via_count (Service.locally_keeps a) (m := m)
  unfold Preflights.createPreflight
  split
  · simp [Service.locally, hcount, rule]
  · split
    · simp [Service.locally, hcount, rule]
    · rename_i hn
      have hids : ids.Nodup := not_not.mp hn
      simp only [Service.locally, Preflights.draft, Service.via_bind, Service.obeys_bind]
      have hnone : Picked user [] [] := ⟨rfl, List.nodup_nil, fun _ hk => by cases hk⟩
      refine (resolve_obeys ids ids rfl hnone hids).mono (fun past targets h => ?_) fun _ _ h => h
      obtain ⟨hd, new, hp, htargets⟩ := h
      simp only [Service.via_now (Service.locally_keeps a), Service.obeys_now]
      refine ⟨trivial, fun now => ?_⟩
      have hp₁ : Picked user (⟨.resource .now, some now⟩ :: past) (new.reverse ++ []) := hp.mute rfl
      refine (nameGroups_obeys ids (Preflight.byRule targets) hp₁ hd).mono
        (fun past₁ groups h => ?_) fun _ _ h => h
      obtain ⟨hd₁, hp₁, hgroups⟩ := h
      simp only [Service.via_freshId (Service.locally_keeps a), Service.obeys_freshId,
        Service.via_pure, Service.obeys_pure, hcount, Service.via_store (Service.locally_keeps a),
        Service.obeys_store, Service.obeys_count]
      refine ⟨trivial, fun id => ⟨⟨hd₁, rfl, by simp [issued?, Preflight.create], _, hp₁.mute rfl,
        fun t => ?_⟩, fun _ => ⟨trivial, trivial⟩, fun _ => trivial⟩⟩
      calc (∃ g ∈ groups, t ∈ g.targets) ↔ t ∈ (groups.map (·.targets)).flatten := by simp
        _ ↔ t ∈ (Preflight.byRule targets).flatMap (·.2) := by rw [hgroups, List.flatMap_def]
        _ ↔ t ∈ targets := Preflight.mem_byRule
        _ ↔ ∃ k ∈ new.reverse ++ [], k.kept = t := by simp [htargets]

theorem program_obeys (a : GroupAuthorizer) (o : DraftOperation) :
    (o.program.locally a).Obeys o.rule (fun _ _ => True) (fun _ _ => True) [] := by
  cases o with
  | draft user ids => exact createPreflight_obeys ids
  | put target =>
    simp only [Service.locally, program, Catalogue.putTarget, Service.via_bind,
      Service.via_store (Service.locally_keeps a), Service.obeys_bind, Service.obeys_store]
    exact ⟨rfl, fun _ => trivial, fun _ => trivial⟩

/-- What is known of the past of an operation that has stored a preflight. -/
structure HasDrafted (o : DraftOperation) (past : Past) (p : Preflight) : Prop where
  only : told drafted? past = [p]
  id : p.id ∈ told issued? past
  shown : ∃ user ids, o = .draft user ids ∧ p.userId = user.id ∧ ∃ picks, Picked user past picks ∧
    ∀ t, (∃ g ∈ p.accessGroups, t ∈ g.targets) ↔ ∃ k ∈ picks, k.kept = t

theorem HasDrafted.mute {o : DraftOperation} {p : Preflight} (h : HasDrafted o past p)
    {e : Exchange Call.Reply} (hd : drafted? e = none) (hl : looked? e = none) :
    HasDrafted o (e :: past) p := by
  obtain ⟨hp, hid, user, ids, ho, hu, picks, hpicks, hmem⟩ := h
  constructor
  · simp [hd, hp]
  · rw [told_cons]
    exact List.mem_append_right _ hid
  · exact ⟨user, ids, ho, hu, picks, hpicks.mute hl, hmem⟩

theorem rule_cases {o : DraftOperation} {c : Call} (h : rule o past c) :
    (∃ id, c = .resource (.store (.getTarget id)) ∧ told drafted? past = []) ∨
    (∃ user ids p, o = .draft user ids ∧ c = .resource (.store (.putPreflight p)) ∧
      told drafted? past = [] ∧ p.userId = user.id ∧ p.id ∈ told issued? past ∧
      ∃ picks, Picked user past picks ∧
        ∀ t, (∃ g ∈ p.accessGroups, t ∈ g.targets) ↔ ∃ k ∈ picks, k.kept = t) ∨
    ∀ reply, drafted? ⟨c, reply⟩ = none ∧ looked? ⟨c, reply⟩ = none := by
  unfold rule at h
  split at h
  · exact .inl ⟨_, rfl, h⟩
  · exact .inr (.inr fun _ => ⟨rfl, rfl⟩)
  · exact .inr (.inl ⟨_, _, _, rfl, rfl, h⟩)
  · exact .inr (.inr fun _ => ⟨rfl, rfl⟩)
  · exact .inr (.inr fun _ => ⟨rfl, rfl⟩)
  · exact h.elim
  · subst h
    exact .inr (.inr fun _ => ⟨rfl, rfl⟩)

theorem rule_put {o : DraftOperation} {p : Preflight}
    (h : rule o past (.resource (.store (.putPreflight p)))) :
    ∃ user ids, o = .draft user ids ∧ p.userId = user.id := by
  cases o with
  | draft user ids => exact ⟨user, ids, rfl, h.2.1⟩
  | put target => cases h

theorem hasDrafted_of_kept {o : DraftOperation} (h : Kept (rule o) past) :
    told drafted? past = [] ∨ ∃ p, HasDrafted o past p := by
  induction past with
  | nil => exact .inl rfl
  | cons e past ih =>
    obtain ⟨hc, h⟩ := h
    obtain ⟨c, reply⟩ := e
    rcases rule_cases hc with ⟨id, rfl, hn⟩ | ⟨user, ids, p, rfl, rfl, hn, hu, hid, picks, hpicks, hmem⟩ |
      hmute
    · exact .inl hn
    · rcases reply with _ | _ | _
      · exact .inl hn
      · exact .inl hn
      · refine .inr ⟨p, by simp [drafted?, hn], hid, user, ids, rfl, hu, picks, ?_, hmem⟩
        exact hpicks.mute rfl
    · obtain ⟨hd, hl⟩ := hmute reply
      rcases ih h with hn | ⟨p, hp⟩
      · exact .inl (by simp [hd, hn])
      · exact .inr ⟨p, hp.mute hd hl⟩

theorem hasDrafted {o : DraftOperation} {p : Preflight} (h : Kept (rule o) past)
    (hp : p ∈ told drafted? past) : HasDrafted o past p := by
  rcases hasDrafted_of_kept h with hn | ⟨q, hq⟩
  · rw [hn] at hp
    cases hp
  · rw [hq.only, List.mem_singleton] at hp
    rw [hp]
    exact hq

/-- The preflight holds what the second looks have found. -/
theorem HasDrafted.shows_iff {ids : List String} {p : Preflight}
    (h : HasDrafted (.draft user ids) past p) : p.Shows user ↔ ¬ Swapped user past := by
  obtain ⟨-, -, user, ids, heq, -, picks, hpicks, hmem⟩ := h
  cases heq
  constructor
  · rintro hs ⟨newer, older, id, t, seen, hlooks, hseen, -, ht⟩
    rw [hpicks.looks] at hlooks
    obtain ⟨g, hg, htg⟩ := (hmem t).mpr (Pick.kept_of_looks hpicks.distinct hlooks hseen)
    rw [hs g hg t htg] at ht
    cases ht
  · intro hs g hg t ht
    obtain ⟨k, hk, rfl⟩ := (hmem t).mp ⟨g, hg, ht⟩
    rw [← Bool.not_eq_false]
    intro hhidden
    obtain ⟨newer, older, hlooks, hseen⟩ := Pick.looks_of_mem hk
    exact hs ⟨newer, older, k.id, k.kept, k.checked, hpicks.looks.trans hlooks, hseen,
      hpicks.authorized k hk, hhidden⟩

end DraftOperation

/-- Drafts and updates of the catalogue, any number of them, with authorization by groups. -/
abbrev drafts (a : GroupAuthorizer) : Pool where
  Op := DraftOperation
  Result := DraftOperation.Result
  program o := o.program.locally a

namespace Pool

/-! ## Between two looks -/

section Between

variable {S : Pool} {rule : S.Op → Past → Call → Prop} {w₀ w : World} {log : List S.Entry}

theorem perform_target {x : Surroundings} {w w' : World} {c : Call} {r : c.Reply}
    (h : w.perform x c = some (r, w')) (id : String) :
    w'.store.targets[id]? = w.store.targets[id]? ∨
      ∃ t, c = .resource (.store (.putTarget t)) ∧ w'.store.targets[id]? = some t := by
  rcases World.perform_store h with ⟨c, rfl⟩ | ⟨hs, -⟩
  · cases h
    simp only [MemoryStore.perform_targets]
    split
    · rename_i t
      rw [MemoryStore.getElem?_insert_row]
      split
      · exact .inr ⟨t, rfl, rfl⟩
      · exact .inl rfl
    · exact .inl rfl
  · exact .inl (by rw [hs])

theorem put_since (h : Trace rule w₀ w log) {newer older : List S.Entry} {i : Nat} {o : S.Op}
    {id : String} {found : Option Target}
    (hlog : log = newer ++ ⟨i, o, .resource (.store (.getTarget id)), some (.ok found)⟩ :: older) :
    w.store.targets[id]? = found ∨ ∃ t, w.store.targets[id]? = some t ∧
      ∃ e ∈ newer, e.exchange.call = .resource (.store (.putTarget t)) := by
  induction h generalizing newer with
  | init => simp at hlog
  | clock t _ ih => exact ih hlog
  | answered _ _ _ hw ih =>
    cases newer with
    | nil =>
      cases hlog
      cases hw
      exact .inl rfl
    | cons e newer =>
      cases hlog
      rcases perform_target hw id with hsame | ⟨t, hput, ht⟩
      · rw [hsame]
        rcases ih rfl with hfound | ⟨t, ht, e, he, hput⟩
        · exact .inl hfound
        · exact .inr ⟨t, ht, e, List.mem_cons_of_mem _ he, hput⟩
      · exact .inr ⟨t, ht, _, List.mem_cons_self, hput⟩
  | lost _ _ _ ih =>
    cases newer with
    | nil => cases hlog
    | cons e newer =>
      cases hlog
      rcases ih rfl with hfound | ⟨t, ht, e, he, hput⟩
      · exact .inl hfound
      · exact .inr ⟨t, ht, e, List.mem_cons_of_mem _ he, hput⟩

theorem told_past_split {kind : Exchange Call.Reply → Option α} {i : Nat} {newer older : List α}
    {a : α} (h : told kind (past log i) = newer ++ a :: older) :
    ∃ before o ex after, log = before ++ ⟨i, o, ex⟩ :: after ∧ kind ex = some a ∧
      told kind (past after i) = older := by
  have hmap : ∀ log : List S.Entry, told kind (past log i) =
      log.filterMap fun e => if e.task = i then kind e.exchange else none := by
    intro log
    rw [told, past, List.filterMap_filterMap]
    congr
    funext e
    split <;> rfl
  rw [hmap, List.filterMap_eq_append_iff] at h
  obtain ⟨l₁, l₂, rfl, -, h⟩ := h
  obtain ⟨l₃, e, after, rfl, -, he, hrest⟩ := List.filterMap_eq_cons_iff.mp h
  split at he
  · rename_i hi
    subst hi
    refine ⟨l₁ ++ l₃, e.op, e.exchange, after, by simp, he, ?_⟩
    rw [hmap]
    exact hrest
  · cases he

end Between

theorem looked?_eq_some {ex : Exchange Call.Reply} {id : String} {found : Option Target}
    (h : looked? ex = some (id, found)) :
    ex = ⟨.resource (.store (.getTarget id)), some (.ok found)⟩ := by
  unfold looked? at h
  split at h
  · cases h
    rfl
  · cases h

section Drafts

variable {a : GroupAuthorizer} {w₀ w : World} {log : List (drafts a).Entry}

/-- In the log, a look of the task found a version of the target that is hidden from the user, an
earlier one found a visible version, and another task has put the hidden version in between. -/
def SwappedBy (log : List (drafts a).Entry) (i : Nat) (user : User) : Prop :=
  ∃ newer mid older id t seen, ∃ o o' : DraftOperation,
    log = newer ++ ⟨i, o, .resource (.store (.getTarget id)), some (.ok (some t))⟩ :: (mid ++
      ⟨i, o', .resource (.store (.getTarget id)), some (.ok (some seen))⟩ :: older) ∧
    seen.visibleTo user.groups = true ∧ t.visibleTo user.groups = false ∧
    ∃ e ∈ mid, e.task ≠ i ∧ e.exchange.call = .resource (.store (.putTarget t))

theorem Trace.swappedBy (h : Trace (S := drafts a) DraftOperation.rule w₀ w log) {i : Nat}
    {user : User} {ids : List String} (hi : Runs log i (.draft user ids))
    (hs : Swapped user (past log i)) : SwappedBy log i user := by
  obtain ⟨newer, older, id, t, seen, hlooks, hseen, hvis, hhid⟩ := hs
  obtain ⟨before, o, ex, rest, rfl, hex, holder⟩ := told_past_split hlooks
  obtain rfl := looked?_eq_some hex
  obtain ⟨newer', older', rfl⟩ := List.append_of_mem hseen
  obtain ⟨mid, o', ex', after, rfl, hex', -⟩ := told_past_split holder
  obtain rfl := looked?_eq_some hex'
  refine ⟨before, mid, after, id, t, seen, o, o', rfl, hvis, hhid, ?_⟩
  obtain ⟨w₁, hrest, -, hanswer⟩ := h.at_call rfl
  obtain ⟨x, w₂, hlook⟩ := hanswer _ rfl
  have hstored : w₁.store.targets[id]? = some t := by
    rw [World.perform, Option.some.injEq, Prod.mk.injEq] at hlook
    exact Except.ok.inj hlook.1
  rcases put_since hrest rfl with hsame | ⟨t', ht', e, he, hput⟩
  · rw [hstored, Option.some.injEq] at hsame
    rw [hsame, hvis] at hhid
    cases hhid
  · rw [hstored, Option.some.injEq] at ht'
    subst ht'
    refine ⟨e, he, fun hei => ?_, hput⟩
    -- the task is a draft, which puts no target
    obtain ⟨mid₁, mid₂, rfl⟩ := List.append_of_mem he
    have hlog : mid₁ ++ e :: mid₂ ++ ⟨i, o', .resource (.store (.getTarget id)),
        some (.ok (some seen))⟩ :: after = mid₁ ++ e :: (mid₂ ++ ⟨i, o', .resource (.store
        (.getTarget id)), some (.ok (some seen))⟩ :: after) := by simp
    obtain ⟨-, -, hrule, -⟩ := hrest.at_call hlog
    have hop : e.op = .draft user ids := h.runs_unique ⟨e, by simp, hei, rfl⟩ hi
    rw [hop, hput] at hrule
    exact hrule

/-- No preflight that was ever stored shows the user who has drafted it a target that is hidden from
that user. -/
def AllShown (log : List (drafts a).Entry) : Prop :=
  ∀ i user ids p, Runs log i (.draft user ids) → p ∈ told drafted? (past log i) → p.Shows user

theorem drafts_keep (a : GroupAuthorizer) (w₀ : World) (moves : List (drafts a).Move) :
    Keeps (S := drafts a) DraftOperation.rule (fun _ _ _ => True) w₀ (run w₀ moves) := by
  refine run_keeps (S := drafts a) (fun o : DraftOperation => ?_) w₀ moves
  exact Interaction.Obeys.mono (DraftOperation.program_obeys a o) (fun _ _ h => h)
    fun _ _ _ => trivial

theorem Trace.stored_drafted (h₀ : w₀.store.preflights = ∅)
    (h : Trace (S := drafts a) DraftOperation.rule w₀ w log) {k : String} {p : Preflight}
    (hp : w.store.preflights[k]? = some p) :
    ∃ i user ids, Runs log i (.draft user ids) ∧ p ∈ told drafted? (past log i) ∧
      p.userId = user.id := by
  induction h with
  | init => simp [h₀] at hp
  | clock t _ ih => exact ih hp
  | @answered w w' log x i o c r _ _ hrule hw ih =>
    have old : w.store.preflights[k]? = some p → ∃ j user ids,
        Runs (⟨i, o, c, some r⟩ :: log) j (.draft user ids) ∧
        p ∈ told drafted? (past (⟨i, o, c, some r⟩ :: log) j) ∧ p.userId = user.id := by
      intro hp
      obtain ⟨j, user, ids, hj, hd, hu⟩ := ih hp
      exact ⟨j, user, ids, hj.cons _, mem_told_past_cons.mpr (.inr hd), hu⟩
    rcases World.perform_preflights hw with ⟨hs, -, -⟩ | ⟨q, rfl, hs, hd, -⟩ |
      ⟨id, u, t, q, rfl, -⟩
    · rw [hs] at hp
      exact old hp
    · rw [hs, MemoryStore.getElem?_insert_row] at hp
      split at hp
      · cases hp
        obtain ⟨user, ids, rfl, hu⟩ := DraftOperation.rule_put hrule
        exact ⟨i, user, ids, ⟨_, List.mem_cons_self, rfl, rfl⟩,
          mem_told_past_cons.mpr (.inl ⟨rfl, hd⟩), hu⟩
      · exact old hp
    · cases o <;> cases hrule
  | lost _ _ _ ih =>
    obtain ⟨j, user, ids, hj, hd, hu⟩ := ih hp
    exact ⟨j, user, ids, hj.cons _, mem_told_past_cons.mpr (.inr hd), hu⟩

/-- In a run all preflights show visible targets exactly when no swapped draft has stored one. Every
swap is another task's doing, and every stored preflight has one draft, which is of its user. -/
theorem run_shown_iff (a : GroupAuthorizer) (pageSize : Nat) (clock : Instant)
    (moves : List (drafts a).Move) :
    let s := run (World.fresh pageSize clock) moves
    (AllShown s.log ↔ ∀ i user ids, Runs s.log i (.draft user ids) → Swapped user (past s.log i) →
      told drafted? (past s.log i) = []) ∧
    (∀ i user ids, Runs s.log i (.draft user ids) → Swapped user (past s.log i) →
      SwappedBy s.log i user) ∧
    (∀ (k : String) (p : Preflight), s.world.store.preflights[k]? = some p →
      ∃ i user ids, Runs s.log i (.draft user ids) ∧ p ∈ told drafted? (past s.log i) ∧
        p.userId = user.id) ∧
    ∀ i j p q, p ∈ told drafted? (past s.log i) → q ∈ told drafted? (past s.log j) →
      p.id = q.id → i = j := by
  intro s
  have trace := (drafts_keep a (World.fresh pageSize clock) moves).trace
  have drafted : ∀ i p, p ∈ told drafted? (past s.log i) → ∃ o, Runs s.log i o ∧
      DraftOperation.HasDrafted o (past s.log i) p := by
    intro i p hp
    obtain ⟨o, ho⟩ := runs_of_told hp
    exact ⟨o, ho, DraftOperation.hasDrafted (trace.kept_of_runs ho) hp⟩
  refine ⟨⟨fun h i user ids hi hs => ?_, fun h i user ids p hi hp => ?_⟩, ?_, ?_, ?_⟩
  · refine List.eq_nil_iff_forall_not_mem.mpr fun p hp => ?_
    obtain ⟨o, ho, hd⟩ := drafted i p hp
    obtain rfl := trace.runs_unique ho hi
    exact hd.shows_iff.mp (h i user ids p hi hp) hs
  · obtain ⟨o, ho, hd⟩ := drafted i p hp
    obtain rfl := trace.runs_unique ho hi
    refine hd.shows_iff.mpr fun hs => ?_
    rw [h i user ids hi hs] at hp
    cases hp
  · exact fun i user ids hi hs => trace.swappedBy hi hs
  · exact fun k p hp => trace.stored_drafted rfl hp
  · intro i j p q hp hq hid
    obtain ⟨_, -, hp⟩ := drafted i p hp
    obtain ⟨_, -, hq⟩ := drafted j q hq
    exact trace.idsOwned.owner i j p.id hp.id (hid ▸ hq.id)

end Drafts

/-! ## A swap -/

namespace Hiding

def byAdmins : GroupAuthorizer := ⟨"admins"⟩

def alice : User := ⟨"alice", "alice@example.org", .ofNames ["ops"]⟩

def vault (group : String) : Target := ⟨"vault", "aws", "rule", ∅, .ofNames [group], ∅⟩

def calls (task : Nat) (ids : List String) : List (drafts byAdmins).Move :=
  ids.map fun id => .proceed task { Surroundings.plain with id := id }

/-- Alice drafts a preflight for a target of her group. After she was authorized, the target is
handed over to another group, and she gets the new version. -/
def moves : List (drafts byAdmins).Move :=
  .start (DraftOperation.put (vault "ops")) :: calls 0 [""] ++
  .start (DraftOperation.draft alice ["vault"]) :: calls 1 [""] ++
  .start (DraftOperation.put (vault "finance")) :: calls 2 [""] ++
  calls 1 ["", "", "g", "p", ""]

def stored : Preflight :=
  ⟨"p", "alice", ["vault"], [⟨"g", "rule", [vault "finance"]⟩], ⟨0, 0⟩, none⟩

theorem moves_store :
    (run (World.fresh 50 ⟨0, 0⟩) moves).world.store.preflights["p"]? = some stored := by
  decide +kernel

theorem moves_users : ∀ e ∈ (run (World.fresh 50 ⟨0, 0⟩) moves).log,
    e.op = DraftOperation.put (vault "ops") ∨ e.op = DraftOperation.draft alice ["vault"] ∨
      e.op = DraftOperation.put (vault "finance") := by
  decide +kernel

theorem stored_hidden : ¬ stored.Shows alice := by
  intro h
  have hvisible := h ⟨"g", "rule", [vault "finance"]⟩ (by simp [stored]) (vault "finance") (by simp)
  exact absurd hvisible (by decide +kernel)

/-- The stored preflight shows Alice the version that is hidden from her. -/
theorem moves_hidden : ¬ AllShown (run (World.fresh 50 ⟨0, 0⟩) moves).log := by
  intro h
  have trace := (drafts_keep byAdmins (World.fresh 50 ⟨0, 0⟩) moves).trace
  obtain ⟨i, user, ids, hi, hp, -⟩ := trace.stored_drafted rfl moves_store
  have ⟨e, he, _, hop⟩ := hi
  have huser : user = alice := by
    rcases moves_users e he with hput | hdraft | hput
    · rw [hop] at hput
      cases hput
    · rw [hop] at hdraft
      exact (DraftOperation.draft.inj hdraft).1
    · rw [hop] at hput
      cases hput
  subst huser
  exact stored_hidden (h i alice ids stored hi hp)

end Hiding

end Pool

end AccessGrants
