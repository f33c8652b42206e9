import AccessGrants.Proofs.Concurrency.History
import AccessGrants.Service.Local

/-!
# AccessGrants.Proofs.Concurrency.Handlers

Operations whose calls of a collaborator are carried out by a program, call by call. An overflow of
that program is the end of the operation.

* `Service.via`  — the operation with a handler for its calls.
* `via_bind`     — a handler is applied part by part.
* `via_store` and so on — a handler that leaves the resources alone leaves such calls as they are.
* `ofResources_bind` — the same for the programs that handlers are made of.
* `Service.locally`, `locally_eq` — the services with the collaborators that need nothing but the
                      resources.
-/

namespace AccessGrants

namespace Interaction

variable {C : Type} {Reply : C → Type}

theorem bind_assoc (p : Interaction Reply α) (f : α → Interaction Reply β)
    (g : β → Interaction Reply γ) : p >>= f >>= g = p >>= fun a => f a >>= g := by
  induction p with
  | done a => rfl
  | step c next ih => exact congrArg (step c) (funext ih)
  | overflow => rfl

theorem bind_done (p : Interaction Reply α) : p >>= done = p := by
  induction p with
  | done a => rfl
  | step c next ih => exact congrArg (step c) (funext ih)
  | overflow => rfl

instance : LawfulMonad (Interaction Reply) :=
  .mk' (Interaction Reply) (fun p => bind_done p) (fun _ _ => rfl) bind_assoc

end Interaction

namespace Service

/-- The end of an operation that overflows. -/
def overflowed : Service α :=
  throw (.internal "overflow")

/-- A program over the resources as a part of an operation. -/
def ofResources (p : ResourceProc α) : Service α :=
  p.interpret ask overflowed

/-- The operation with its calls carried out by a handler. -/
def via (handle : (c : Call) → Service c.Reply) (p : Service α) : Service α := do
  match ← p.run.interpret handle overflowed with
  | .ok a => return a
  | .error e => throw e

section Via

variable {handle : (c : Call) → Service c.Reply}

@[simp] theorem via_pure {a : α} : via handle (pure a) = pure a := rfl

@[simp] theorem via_throw {e : ServiceError} : via handle (throw e : Service α) = throw e := rfl

theorem via_step {c : Call} {next : c.Reply → Proc (Except ServiceError α)} :
    via handle (ExceptT.mk (.step c next)) = handle c >>= fun r => via handle (ExceptT.mk (next r)) :=
  LawfulMonad.bind_assoc (handle c) _ _

/-- A handler is applied part by part. -/
@[simp] theorem via_bind {p : Service α} {f : α → Service β} :
    via handle (p >>= f) = via handle p >>= fun a => via handle (f a) := by
  have parts : ∀ q : Proc (Except ServiceError α),
      via handle (ExceptT.mk q >>= f) = via handle (ExceptT.mk q) >>= fun a => via handle (f a) := by
    intro q
    induction q with
    | done r =>
      cases r with
      | ok a => rfl
      | error e => rfl
    | step c next ih =>
      rw [via_step, LawfulMonad.bind_assoc, ← funext ih]
      exact via_step
    | overflow => rfl
  exact parts p.run

theorem via_call {c : Call} : via (α := no_index c.Reply) handle (call c) = handle c := by
  show via handle (ExceptT.mk (.step c fun r => .done (.ok r))) = _
  rw [via_step]
  exact LawfulMonad.bind_pure_comp _ _ |>.trans (LawfulFunctor.id_map _)

/-- A handler that leaves the resources alone. -/
def Keeps (handle : (c : Call) → Service c.Reply) : Prop :=
  ∀ r, handle (.resource r) = ask r

variable (h : Keeps handle)
include h

theorem via_ask {r : Resource} : via (α := no_index r.Reply) handle (ask r) = ask r :=
  via_call.trans (h r)

theorem via_store {c : StoreCall} : via (α := no_index c.Value) handle (store c) = store c := by
  rw [store, via_bind, via_ask h]
  congr
  funext a
  cases a with
  | ok a => rfl
  | error e => rfl

theorem via_now : via handle now = now := via_ask h

theorem via_freshId : via handle freshId = freshId := via_ask h

theorem via_count {m : Metric} : via handle (count m) = count m := via_ask h

theorem via_emit {e : AccessEvent} : via handle (emit e) = emit e := by
  rw [emit, via_bind, via_ask h]
  rfl

omit h in
theorem via_orNotFound {what : String} {a : Option α} :
    via handle (orNotFound what a) = orNotFound what a := by
  cases a with
  | none => rfl
  | some a => rfl

omit h in
theorem via_verdict {answer : Except String Bool} :
    via handle (verdict answer) = verdict answer := by
  cases answer with
  | error d => rfl
  | ok b => rfl

end Via

/-- A handler does not touch an operation that makes none of the calls it carries out. -/
theorem via_obeys {handle : (c : Call) → Service c.Reply} {rule : Past → Call → Prop}
    (hrule : ∀ past c, rule past c → handle c = call c) {p : Service α} {past : Past}
    {ok : Past → α → Prop} {err : Past → ServiceError → Prop} (h : p.Obeys rule ok err past) :
    (via handle p).Obeys rule ok err past := by
  have tree : ∀ (q : Proc (Except ServiceError α)) (past : Past),
      Service.Obeys (ExceptT.mk q) rule ok err past →
      Service.Obeys (via handle (ExceptT.mk q)) rule ok err past := by
    intro q
    induction q with
    | done r =>
      intro past h
      cases r with
      | ok a => exact h
      | error e => exact h
    | step c next ih =>
      intro past h
      rw [via_step, hrule past c h.1, obeys_bind, obeys_call]
      exact ⟨h.1, fun r => ih r _ (h.2 r)⟩
    | overflow => exact fun _ h => h.elim
  exact tree p.run past h

section OfResources

@[simp] theorem ofResources_pure {a : α} : ofResources (pure a) = pure a := rfl

@[simp] theorem ofResources_call {r : Resource} :
    ofResources (α := no_index r.Reply) (Interaction.call r) = ask r := rfl

@[simp] theorem ofResources_overflow : ofResources (.overflow : ResourceProc α) = overflowed := rfl

@[simp] theorem ofResources_bind {p : ResourceProc α} {f : α → ResourceProc β} :
    ofResources (p >>= f) = ofResources p >>= fun a => ofResources (f a) := by
  induction p with
  | done a => rfl
  | step r next ih =>
    show (ask r >>= fun a => ofResources (next a >>= f)) = (ask r >>= fun a => ofResources (next a)) >>= _
    rw [LawfulMonad.bind_assoc, funext ih]
  | overflow => rfl

end OfResources

end Service

/-- The services with the collaborators that need nothing but the resources. -/
def Service.locally (a : GroupAuthorizer) (p : Service α) : Service α :=
  p.via fun c => ofResources (c.locally a)

/-- The program over the resources alone is a part of an operation in the same way. -/
theorem Service.ofResources_locally (a : GroupAuthorizer) (p : Proc α) :
    ofResources (Proc.locally a p) = p.interpret (fun c => ofResources (c.locally a)) overflowed := by
  induction p with
  | done x => rfl
  | step c next ih =>
    show ofResources (c.locally a >>= fun r => Proc.locally a (next r)) = _
    rw [ofResources_bind, funext ih]
    rfl
  | overflow => rfl

/-- They do what the program over the resources alone does. -/
theorem Service.locally_eq (a : GroupAuthorizer) (p : Service α) : p.locally a = (do
      match ← ofResources (Proc.locally a p.run) with
      | .ok x => return x
      | .error e => throw e) := by
  rw [ofResources_locally]
  rfl

theorem Service.locally_keeps (a : GroupAuthorizer) :
    Service.Keeps fun c => Service.ofResources (c.locally a) :=
  fun _ => rfl

end AccessGrants
