/-!
# AccessGrants.Interaction

A program as a tree of calls to its surroundings. What the surroundings do is not part of the tree:
a run hands every call to a handler and goes on with its reply, so the same program runs alone,
interleaved with others, or against surroundings that fail.

* `Interaction Reply α`   — a tree of calls that ends in an `α` or in an arithmetic overflow.
* `Interaction.interpret` — runs a tree in a monad, call by call.
-/

namespace AccessGrants

/-- `Reply c` is the type of what the surroundings answer to `c`. -/
inductive Interaction {C : Type} (Reply : C → Type) (α : Type) where
  | done (a : α)
  | step (c : C) (next : Reply c → Interaction Reply α)
  | overflow

namespace Interaction

variable {C : Type} {Reply : C → Type}

def bind : Interaction Reply α → (α → Interaction Reply β) → Interaction Reply β
  | done a, f => f a
  | step c next, f => step c fun r => (next r).bind f
  | overflow, _ => overflow

instance : Monad (Interaction Reply) where
  pure := done
  bind := bind

def call (c : C) : Interaction Reply (Reply c) :=
  step c done

/-- Goes on with a value, or overflows. -/
def ofOption : Option α → Interaction Reply α
  | some a => done a
  | none => overflow

/-- Runs a tree: `handle` answers the calls and `stop` is the end of an overflow. -/
def interpret [Monad m] (handle : (c : C) → m (Reply c)) (stop : m α) :
    Interaction Reply α → m α
  | done a => pure a
  | step c next => do
    let r ← handle c
    (next r).interpret handle stop
  | overflow => stop

end Interaction

end AccessGrants
