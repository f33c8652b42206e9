import AccessGrants.Service.Proc

/-!
# AccessGrants.Proofs.Concurrency.History

What a program does, told from its own past alone. The replies are arbitrary, so whatever is
shown here holds however the program is interleaved with others.

* `Exchange`          — a call and its reply.
* `Interaction.Obeys` — every call of a program keeps a rule on the exchanges before it, and every
                        result fits the exchanges that led to it.
* `Kept`              — the exchanges of a past kept a rule, one after the other.
* `obeys_bind`        — the rule of composition; the other lemmas are one for each way to build a
                        service operation.
-/

namespace AccessGrants

/-- A call and its reply; a call that never returned has none. -/
structure Exchange {C : Type} (Reply : C → Type) where
  call : C
  reply : Option (Reply call)

namespace Interaction

variable {C : Type} {Reply : C → Type}

/-- Whatever the replies are, every call keeps `rule` and every result fits `ends`. The exchanges
of the past stand newest first. An overflow fits nothing. -/
def Obeys (rule : List (Exchange Reply) → C → Prop) (ends : List (Exchange Reply) → α → Prop) :
    List (Exchange Reply) → Interaction Reply α → Prop
  | past, done a => ends past a
  | past, step c next => rule past c ∧ ∀ r, Obeys rule ends (⟨c, some r⟩ :: past) (next r)
  | _, overflow => False

/-- Every call of a past kept `rule` in view of what was before it. -/
def Kept (rule : List (Exchange Reply) → C → Prop) : List (Exchange Reply) → Prop
  | [] => True
  | e :: past => rule past e.call ∧ Kept rule past

variable {rule rule' : List (Exchange Reply) → C → Prop}
  {past : List (Exchange Reply)}

@[simp] theorem obeys_pure {ends : List (Exchange Reply) → α → Prop} {a : α} :
    Obeys rule ends past (pure a) ↔ ends past a := Iff.rfl

@[simp] theorem obeys_call {c : C} {ends : List (Exchange Reply) → Reply c → Prop} :
    Obeys rule ends past (call c) ↔ rule past c ∧ ∀ r, ends (⟨c, some r⟩ :: past) r := Iff.rfl

/-- The second program starts with the past that the first one leaves. -/
theorem obeys_bind {p : Interaction Reply α} {f : α → Interaction Reply β}
    {ends : List (Exchange Reply) → β → Prop} :
    Obeys rule ends past (p >>= f) ↔ Obeys rule (fun past a => Obeys rule ends past (f a)) past p := by
  induction p generalizing past with
  | done a => exact Iff.rfl
  | step c next ih =>
    show _ ∧ _ ↔ _ ∧ _
    exact and_congr_right fun _ => forall_congr' fun r => ih r
  | overflow => exact Iff.rfl

theorem Obeys.mono {p : Interaction Reply α} {ends ends' : List (Exchange Reply) → α → Prop}
    (h : Obeys rule ends past p) (hr : ∀ past c, rule past c → rule' past c)
    (he : ∀ past a, ends past a → ends' past a) : Obeys rule' ends' past p := by
  induction p generalizing past with
  | done a => exact he _ _ h
  | step c next ih => exact ⟨hr _ _ h.1, fun r => ih r (h.2 r)⟩
  | overflow => exact h

/-- Two rules that are kept are kept together. -/
theorem Obeys.and {p : Interaction Reply α} {ends ends' : List (Exchange Reply) → α → Prop}
    (h : Obeys rule ends past p) (h' : Obeys rule' ends' past p) :
    Obeys (fun past c => rule past c ∧ rule' past c) (fun past a => ends past a ∧ ends' past a)
      past p := by
  induction p generalizing past with
  | done a => exact ⟨h, h'⟩
  | step c next ih => exact ⟨⟨h.1, h'.1⟩, fun r => ih r (h.2 r) (h'.2 r)⟩
  | overflow => exact h

theorem Kept.mono (h : Kept rule past) (hr : ∀ past c, rule past c → rule' past c) :
    Kept rule' past := by
  induction past with
  | nil => trivial
  | cons e past ih => exact ⟨hr past e.call h.1, ih h.2⟩

end Interaction

/-- What an operation has done so far, newest first. -/
abbrev Past := List (Exchange Call.Reply)

/-- What the exchanges of a past tell, when some of them tell something of a kind. -/
def told (kind : Exchange Call.Reply → Option α) (past : Past) : List α :=
  past.filterMap kind

section Told

variable {kind : Exchange Call.Reply → Option α} {e : Exchange Call.Reply} {past : Past}

@[simp] theorem told_nil : told kind [] = [] := rfl

@[simp] theorem told_cons : told kind (e :: past) = (kind e).toList ++ told kind past := by
  cases h : kind e <;> simp [told, h]

end Told

namespace Service

variable {rule : Past → Call → Prop} {past : Past}
  {ok : Past → α → Prop}
  {err : Past → ServiceError → Prop}

/-- An operation keeps `rule`; what it returns fits `ok`, and its errors fit `err`. -/
def Obeys (p : Service α) (rule : Past → Call → Prop)
    (ok : Past → α → Prop)
    (err : Past → ServiceError → Prop)
    (past : Past) : Prop :=
  Interaction.Obeys rule (fun past r => r.casesOn (err past) (ok past)) past p.run

@[simp] theorem obeys_pure {a : α} : Obeys (pure a) rule ok err past ↔ ok past a := Iff.rfl

@[simp] theorem obeys_throw {e : ServiceError} :
    Obeys (throw e) rule ok err past ↔ err past e := Iff.rfl

@[simp] theorem obeys_bind {p : Service β} {f : β → Service α} :
    Obeys (p >>= f) rule ok err past ↔
      Obeys p rule (fun past b => Obeys (f b) rule ok err past) err past := by
  show Interaction.Obeys _ _ _ (p.run >>= _) ↔ _
  rw [Interaction.obeys_bind]
  constructor
  · intro h
    refine h.mono (fun _ _ => id) fun past r hr => ?_
    cases r <;> exact hr
  · intro h
    refine h.mono (fun _ _ => id) fun past r hr => ?_
    cases r <;> exact hr

@[simp] theorem obeys_call {c : Call} {ok : Past → c.Reply → Prop} :
    Obeys (α := no_index c.Reply) (call c) rule ok err past ↔
      rule past c ∧ ∀ r, ok (⟨c, some r⟩ :: past) r := Iff.rfl

@[simp] theorem obeys_ask {r : Resource} {ok : Past → r.Reply → Prop} :
    Obeys (α := no_index r.Reply) (ask r) rule ok err past ↔
      rule past (.resource r) ∧ ∀ a, ok (⟨.resource r, some a⟩ :: past) a := Iff.rfl

@[simp] theorem obeys_store {c : StoreCall} {ok : Past → c.Value → Prop} :
    Obeys (α := no_index c.Value) (store c) rule ok err past ↔ rule past (.resource (.store c)) ∧
      (∀ a, ok (⟨.resource (.store c), some (.ok a)⟩ :: past) a) ∧
      ∀ e, err (⟨.resource (.store c), some (.error e)⟩ :: past) (.store e) := by
  rw [store, obeys_bind, obeys_ask]
  refine and_congr_right fun _ => ⟨fun h => ⟨fun a => h (.ok a), fun e => h (.error e)⟩, ?_⟩
  rintro ⟨ha, he⟩ (e | a)
  · exact he e
  · exact ha a

@[simp] theorem obeys_now {ok : Past → Instant → Prop} :
    Obeys now rule ok err past ↔
      rule past (.resource .now) ∧ ∀ t, ok (⟨.resource .now, some t⟩ :: past) t := Iff.rfl

@[simp] theorem obeys_freshId {ok : Past → String → Prop} :
    Obeys freshId rule ok err past ↔
      rule past (.resource .freshId) ∧ ∀ id, ok (⟨.resource .freshId, some id⟩ :: past) id := Iff.rfl

@[simp] theorem obeys_count {m : Metric} {ok : Past → Unit → Prop} :
    Obeys (count m) rule ok err past ↔
      rule past (.resource (.count m)) ∧ ok (⟨.resource (.count m), some ()⟩ :: past) () :=
  and_congr_right fun _ => ⟨fun h => h (), fun h _ => h⟩

@[simp] theorem obeys_emit {e : AccessEvent} {ok : Past → Unit → Prop} :
    Obeys (emit e) rule ok err past ↔ rule past (.resource (.emit e)) ∧
      ∀ r, ok (⟨.resource (.emit e), some r⟩ :: past) () := by
  rw [emit, obeys_bind, obeys_ask]
  exact Iff.rfl

@[simp] theorem obeys_orNotFound {what : String} {a : Option α} :
    Obeys (orNotFound what a) rule ok err past ↔
      (∀ x, a = some x → ok past x) ∧ (a = none → err past (.notFound what)) := by
  cases a with
  | none => simp [orNotFound]
  | some x => simp [orNotFound]

@[simp] theorem obeys_verdict {answer : Except String Bool}
    {ok : Past → Bool → Prop} :
    Obeys (verdict answer) rule ok err past ↔
      (∀ b, answer = .ok b → ok past b) ∧ ∀ d, answer = .error d → err past (.internal d) := by
  cases answer with
  | ok b => simp [verdict]
  | error d => simp [verdict]

theorem Obeys.mono {p : Service α} {ok' : Past → α → Prop}
    {err' : Past → ServiceError → Prop} (h : Obeys p rule ok err past)
    (ho : ∀ past a, ok past a → ok' past a) (he : ∀ past e, err past e → err' past e) :
    Obeys p rule ok' err' past := by
  refine Interaction.Obeys.mono h (fun _ _ => id) fun past r hr => ?_
  cases r with
  | ok a => exact ho past a hr
  | error e => exact he past e hr

theorem Obeys.and {p : Service α} {rule' : Past → Call → Prop} {ok' : Past → α → Prop}
    {err' : Past → ServiceError → Prop} (h : Obeys p rule ok err past)
    (h' : Obeys p rule' ok' err' past) :
    Obeys p (fun past c => rule past c ∧ rule' past c) (fun past a => ok past a ∧ ok' past a)
      (fun past e => err past e ∧ err' past e) past := by
  refine Interaction.Obeys.mono (Interaction.Obeys.and h h') (fun _ _ => id) fun past r hr => ?_
  cases r with
  | ok a => exact hr
  | error e => exact hr

end Service
end AccessGrants
