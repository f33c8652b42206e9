import AccessGrants.Proofs.Alone.Session

/-!
# AccessGrants.Proofs.Catalogue.OptionCache

What is kept of the option source. For every argument that is the whole answer of the last fetch that
found options for it, whoever asked and whatever they may see.

* `Exchange.fetched?`     — the fetches of a past, with their answers.
* `lastFound`             — the options that the last successful fetch of an argument found.
* `Session.Caches`        — they are what is kept.
* `load_shows`, `refresh_fetches`, `listFor_shows` — the three ways to use the cache.
* `session_caches`        — every session of them.
-/

namespace AccessGrants

/-- The argument that is fetched, and the answer. -/
def Exchange.fetched? : Exchange Call.Reply → Option (ArgKey × Except String (Option ArgOptions))
  | ⟨.resource (.fetchOptions providerId argId), some answer⟩ => some (⟨providerId, argId⟩, answer)
  | _ => none

open Exchange (fetched?)

namespace ArgOptionCache

/-- The options in an answer of the source. -/
def found? : Except String (Option ArgOptions) → Option ArgOptions
  | .ok found => found
  | .error _ => none

/-- What the last successful one of some fetches has found, the newest first. -/
def lastFound (key : ArgKey) (fetches : List (ArgKey × Except String (Option ArgOptions))) :
    Option ArgOptions :=
  fetches.findSome? fun (k, answer) => if k = key then found? answer else none

theorem lastFound_cons (key k : ArgKey) (answer : Except String (Option ArgOptions))
    (rest : List (ArgKey × Except String (Option ArgOptions))) :
    lastFound key ((k, answer) :: rest) =
      if k = key ∧ (found? answer).isSome then found? answer else lastFound key rest := by
  by_cases hk : k = key
  · cases h : found? answer <;> simp [lastFound, hk, h]
  · simp [lastFound, hk]

/-- What a refresh makes of an answer of the source. -/
def refreshed : Except String (Option ArgOptions) → Except ServiceError (Bool × ArgOptions)
  | .ok (some options) => .ok (true, options)
  | .ok none => .ok (false, .empty)
  | .error detail => .error (.internal detail)

/-- What a listing makes of an answer of the source. -/
def listed (user : User) (providerId argId : String) :
    Except String (Option ArgOptions) → Except ServiceError ArgOptions
  | .ok (some options) => .ok (options.visibleTo user.groups)
  | .ok none => .error (.notFound ("options for argument " ++ argId ++ " of provider " ++ providerId))
  | .error detail => .error (.internal detail)

end ArgOptionCache

namespace MemoryStore

/-- The options that are kept for an argument. -/
def keptOptions (s : MemoryStore) (key : ArgKey) : Option ArgOptions :=
  s.argOptions[key]?.map (·.content)

end MemoryStore

namespace Session

def fetches (s : Session) : List (ArgKey × Except String (Option ArgOptions)) :=
  told fetched? s.past

/-- An entry stands under its own argument, and holds what the last successful fetch has found. There
is none where no fetch was successful. -/
structure Caches (s : Session) : Prop where
  keyed : ∀ key entry, s.store.argOptions[key]? = some entry →
    ArgKey.mk entry.providerId entry.argId = key
  kept : ∀ key, s.store.keptOptions key = ArgOptionCache.lastFound key s.fetches

theorem caches_start (pageSize : Nat) : (start pageSize).Caches where
  keyed key entry h := by
    rw [start, MemoryStore.empty, Std.ExtTreeMap.getElem?_empty] at h
    cases h
  kept key := by
    rw [MemoryStore.keptOptions, start, MemoryStore.empty, Std.ExtTreeMap.getElem?_empty]
    rfl

end Session

open Service

namespace ArgOptionCache

variable {providerId argId : String} {s : MemoryStore} {past : Past}

/-- After a fetch with this answer: options that were found are kept, and nothing else is written. -/
def Fetched (s : MemoryStore) (past : Past) (key : ArgKey) (answer : Except String (Option ArgOptions))
    (s' : MemoryStore) (past' : Past) : Prop :=
  told fetched? past' = (key, answer) :: told fetched? past ∧
  match found? answer with
  | none => s' = s
  | some options => ∃ t, s' = { s with
      argOptions := s.argOptions.insert key ⟨key.providerId, key.argId, options, t⟩ }

theorem load_shows (providerId argId : String) (s : MemoryStore) (past : Past) :
    (load providerId argId).Ensures
    (fun s' past' found => s' = s ∧ told fetched? past' = told fetched? past ∧
      found = ((s.keptOptions ⟨providerId, argId⟩).isSome,
        (s.keptOptions ⟨providerId, argId⟩).getD .empty))
    (fun _ _ _ => False) s past := by
  rw [load, ensures_bind]
  refine ensures_store (fun found h => ?_) fun e h => by cases h
  have hfound : s.argOptions[ArgKey.mk providerId argId]? = found := Except.ok.inj h
  rw [MemoryStore.keptOptions, hfound]
  cases found with
  | none => exact ⟨rfl, rfl, rfl⟩
  | some cached => exact ⟨rfl, rfl, rfl⟩

theorem refresh_fetches (providerId argId : String) (s : MemoryStore) (past : Past) :
    (refresh providerId argId).Ensures
    (fun s' past' found => ∃ answer, Fetched s past ⟨providerId, argId⟩ answer s' past' ∧
      refreshed answer = .ok found)
    (fun s' past' e => ∃ answer, Fetched s past ⟨providerId, argId⟩ answer s' past' ∧
      refreshed answer = .error e) s past := by
  rw [refresh, ensures_bind]
  refine ensures_call_of_not_store (c := .resource (.fetchOptions providerId argId)) (fun _ => nofun)
    ?_
  rintro (detail | _ | options)
  · rw [ensures_bind]
    refine ensures_count ?_
    exact ⟨.error detail, ⟨rfl, rfl⟩, rfl⟩
  · rw [ensures_bind]
    refine ensures_count ?_
    exact ⟨.ok none, ⟨rfl, rfl⟩, rfl⟩
  · rw [ensures_bind]
    refine ensures_now fun t => ?_
    rw [ensures_bind]
    refine ensures_store (fun _ _ => ?_) fun e h => by cases h
    rw [ensures_bind]
    refine ensures_count ?_
    exact ⟨.ok (some options), ⟨rfl, t, rfl⟩, rfl⟩

/-- A listing answers from what is kept, or from one fetch. -/
def Listing (user : User) (providerId argId : String) (forced : Bool) (s : MemoryStore) (past : Past)
    (s' : MemoryStore) (past' : Past) (answer : Except ServiceError ArgOptions) : Prop :=
  (∃ options, forced = false ∧ s.keptOptions ⟨providerId, argId⟩ = some options ∧ s' = s ∧
    told fetched? past' = told fetched? past ∧ answer = .ok (options.visibleTo user.groups)) ∨
  ((forced = true ∨ s.keptOptions ⟨providerId, argId⟩ = none) ∧
    ∃ reply, Fetched s past ⟨providerId, argId⟩ reply s' past' ∧
      answer = listed user providerId argId reply)

/-- The second half of a listing: what was found is shown to the user. -/
def showFound (user : User) (providerId argId : String) (found : Bool × ArgOptions) :
    Service ArgOptions :=
  if found.1 then return found.2.visibleTo user.groups
  else throw (.notFound ("options for argument " ++ argId ++ " of provider " ++ providerId))

theorem listFor_eq (user : User) (forced : Bool) : listFor user providerId argId forced =
    (if forced then refresh providerId argId else loadOrRefresh providerId argId) >>=
      showFound user providerId argId := by
  cases forced with
  | true => rfl
  | false => rfl

theorem refresh_listing (user : User) (forced : Bool)
    (hwhy : forced = true ∨ s.keptOptions ⟨providerId, argId⟩ = none) {past₀ : Past}
    (hpast : told fetched? past = told fetched? past₀) :
    (refresh providerId argId >>= showFound user providerId argId).Ensures
      (fun s' past' o => Listing user providerId argId forced s past₀ s' past' (.ok o))
      (fun s' past' e => Listing user providerId argId forced s past₀ s' past' (.error e)) s past := by
  rw [ensures_bind]
  refine (refresh_fetches providerId argId s past).mono (fun s' past' found h => ?_) fun s' past' e h => ?_
  · obtain ⟨reply, hfetched, hfound⟩ := h
    rw [Fetched, hpast] at hfetched
    obtain detail | _ | options := reply
    · cases hfound
    · cases hfound
      exact .inr ⟨hwhy, .ok none, hfetched, rfl⟩
    · cases hfound
      exact .inr ⟨hwhy, .ok (some options), hfetched, rfl⟩
  · obtain ⟨reply, hfetched, herror⟩ := h
    rw [Fetched, hpast] at hfetched
    obtain detail | _ | options := reply
    · cases herror
      exact .inr ⟨hwhy, .error detail, hfetched, rfl⟩
    · cases herror
    · cases herror

/-- Only a forced listing and one of options that are not kept ask the option source. -/
theorem listFor_shows (user : User) (forced : Bool) :
    (listFor user providerId argId forced).Ensures
      (fun s' past' o => Listing user providerId argId forced s past s' past' (.ok o))
      (fun s' past' e => Listing user providerId argId forced s past s' past' (.error e)) s past := by
  rw [listFor_eq]
  cases forced with
  | true => exact refresh_listing user true (.inl rfl) rfl
  | false =>
    show ((loadOrRefresh providerId argId) >>= _).Ensures _ _ s past
    rw [ensures_bind, loadOrRefresh, ensures_bind]
    refine (load_shows providerId argId s past).mono (fun s' past' found h => ?_) fun _ _ _ => False.elim
    obtain ⟨rfl, hpast, rfl⟩ := h
    cases hkept : s'.keptOptions ⟨providerId, argId⟩ with
    | some options => exact .inl ⟨options, rfl, hkept, rfl, hpast, rfl⟩
    | none => exact ensures_bind.mp (refresh_listing user false (.inr hkept) hpast)

end ArgOptionCache

/-! ## Sessions -/

/-- A use of the cache. -/
inductive CacheCall where
  | load (providerId argId : String)
  | refresh (providerId argId : String)
  | listFor (user : User) (providerId argId : String) (forced : Bool)

namespace CacheCall

abbrev Result : CacheCall → Type
  | load _ _ | refresh _ _ => Bool × ArgOptions
  | listFor _ _ _ _ => ArgOptions

def program : (c : CacheCall) → Service c.Result
  | load providerId argId => ArgOptionCache.load providerId argId
  | refresh providerId argId => ArgOptionCache.refresh providerId argId
  | listFor user providerId argId forced => ArgOptionCache.listFor user providerId argId forced

/-- What a call answers and leaves behind. -/
def Shows (s s' : Session) : (c : CacheCall) → Except ServiceError c.Result → Prop
  | load providerId argId, answer => s'.store = s.store ∧ s'.fetches = s.fetches ∧
      answer = .ok ((s.store.keptOptions ⟨providerId, argId⟩).isSome,
        (s.store.keptOptions ⟨providerId, argId⟩).getD .empty)
  | refresh providerId argId, answer => ∃ reply,
      ArgOptionCache.Fetched s.store s.past ⟨providerId, argId⟩ reply s'.store s'.past ∧
        answer = ArgOptionCache.refreshed reply
  | listFor user providerId argId forced, answer =>
      ArgOptionCache.Listing user providerId argId forced s.store s.past s'.store s'.past answer

theorem program_plain (c : CacheCall) : c.program.Within Call.isPlain := by
  cases c with
  | load p a => exact ArgOptionCache.load_plain p a
  | refresh p a => exact ArgOptionCache.refresh_plain p a
  | listFor user p a forced => exact ArgOptionCache.listFor_plain user p a forced

theorem program_shows (c : CacheCall) (s : Session) :
    Interaction.Ensures (fun store past answer => c.Shows s ⟨store, past⟩ answer) s.store s.past
      c.program.run := by
  cases c with
  | load p a =>
    refine Interaction.Ensures.mono (ArgOptionCache.load_shows p a s.store s.past)
      fun store past answer h => ?_
    cases answer with
    | error e => exact h.elim
    | ok found => exact ⟨h.1, h.2.1, congrArg _ h.2.2⟩
  | refresh p a =>
    refine Interaction.Ensures.mono (ArgOptionCache.refresh_fetches p a s.store s.past)
      fun store past answer h => ?_
    cases answer with
    | error e =>
      obtain ⟨reply, hfetched, herror⟩ := h
      exact ⟨reply, hfetched, herror.symm⟩
    | ok found =>
      obtain ⟨reply, hfetched, hfound⟩ := h
      exact ⟨reply, hfetched, hfound.symm⟩
  | listFor user p a forced =>
    refine Interaction.Ensures.mono (ArgOptionCache.listFor_shows user forced)
      fun store past answer h => ?_
    cases answer with
    | error e => exact h
    | ok o => exact h

theorem Shows.fetched_or {s s' : Session} {c : CacheCall} {answer : Except ServiceError c.Result}
    (h : c.Shows s s' answer) :
    (s'.store = s.store ∧ s'.fetches = s.fetches) ∨
      ∃ key reply, ArgOptionCache.Fetched s.store s.past key reply s'.store s'.past := by
  cases c with
  | load p a => exact .inl ⟨h.1, h.2.1⟩
  | refresh p a =>
    obtain ⟨reply, hfetched, -⟩ := h
    exact .inr ⟨_, reply, hfetched⟩
  | listFor user p a forced =>
    rcases h with ⟨options, -, -, hstore, hpast, -⟩ | ⟨-, reply, hfetched, -⟩
    · exact .inl ⟨hstore, hpast⟩
    · exact .inr ⟨_, reply, hfetched⟩

end CacheCall

namespace Session

/-- A fetch that finds options replaces what is kept for the argument, and any other changes
nothing. -/
theorem Caches.fetched {s s' : Session} (h : s.Caches) {key : ArgKey}
    {reply : Except String (Option ArgOptions)}
    (hfetched : ArgOptionCache.Fetched s.store s.past key reply s'.store s'.past) : s'.Caches := by
  obtain ⟨hpast, hstore⟩ := hfetched
  have hfetches : s'.fetches = (key, reply) :: s.fetches := hpast
  cases hfound : ArgOptionCache.found? reply with
  | none =>
    rw [hfound] at hstore
    refine ⟨fun k entry hk => h.keyed k entry (hstore ▸ hk), fun k => ?_⟩
    rw [hstore, hfetches, ArgOptionCache.lastFound_cons, hfound, h.kept]
    simp
  | some options =>
    rw [hfound] at hstore
    obtain ⟨t, hstore⟩ := hstore
    refine ⟨fun k entry hk => ?_, fun k => ?_⟩
    · rw [hstore, Std.ExtTreeMap.getElem?_insert] at hk
      split at hk
      · rename_i hkey
        cases hk
        exact Std.LawfulEqCmp.eq_of_compare hkey
      · exact h.keyed k entry hk
    · rw [hfetches, ArgOptionCache.lastFound_cons, hfound, ← h.kept, MemoryStore.keptOptions,
        MemoryStore.keptOptions, hstore, Std.ExtTreeMap.getElem?_insert]
      by_cases hkey : key = k
      · subst hkey
        simp
      · have hne : ¬ ArgKey.order key k = .eq := fun heq => hkey (Std.LawfulEqCmp.eq_of_compare heq)
        simp [hkey, hne]

theorem Caches.shown {s s' : Session} (h : s.Caches) {c : CacheCall}
    {answer : Except ServiceError c.Result} (hshows : c.Shows s s' answer) : s'.Caches := by
  rcases hshows.fetched_or with ⟨hstore, hfetches⟩ | ⟨key, reply, hfetched⟩
  · refine ⟨fun k entry hk => h.keyed k entry (hstore ▸ hk), fun k => ?_⟩
    rw [hstore, hfetches]
    exact h.kept k
  · exact h.fetched hfetched

theorem serve_shows (s : Session) (t : Turn CacheCall) :
    ∃ answer, (s.serve CacheCall.program t).1 = some answer ∧
      t.op.Shows s (s.serve CacheCall.program t).2 answer := by
  obtain ⟨answer, s', hrun⟩ :=
    Interaction.exists_finish t.moments s (t.op.program_plain s.past)
      fun _ c hc => Call.not_isWorkflow_of_isAside (Call.isAside_of_isPlain c hc)
  have hserve : s.serve CacheCall.program t = (some answer, s') := hrun
  rw [hserve]
  exact ⟨answer, rfl, Interaction.finish_ensures (t.op.program_shows s) hrun⟩

/-- Whatever the source has answered in the calls before, the cache holds what the last successful
fetch of each argument has found, and the next call answers from it or from one fetch. -/
theorem session_caches (pageSize : Nat) (turns : List (Turn CacheCall)) (t : Turn CacheCall) :
    let s := (start pageSize).after CacheCall.program turns
    let s' := (s.serve CacheCall.program t).2
    s.Caches ∧ ∃ answer, (s.serve CacheCall.program t).1 = some answer ∧ t.op.Shows s s' answer := by
  refine ⟨?_, serve_shows _ t⟩
  refine after_keeps Caches (fun s t h => ?_) (caches_start pageSize) turns
  obtain ⟨answer, -, hshows⟩ := serve_shows s t
  exact h.shown hshows

end Session
end AccessGrants
