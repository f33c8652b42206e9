import AccessGrants.Json.Draft
import AccessGrants.Names
import AccessGrants.Word

/-!
# AccessGrants.Document.Record

Typed readers of drafts.

* `Decoder α`     — reads a draft as an `α` or tells the first fault.
* `Record α`      — named fields in their declared order, and how to build an `α` from them.
* `Record.decode` — reads a record from an object, in whose order faults are met, or from a list of
                    the fields in declared order. Unknown fields are skipped.
-/

namespace AccessGrants

abbrev Decoder (α : Type) := Draft → Except Fault α

namespace Decoder

/-- The fault of a draft that is not of the wanted type. -/
def refuse (d : Draft) : Except Fault α :=
  match d with
  | .broken | .unreadable => .error .malformed
  | _ => .error .mismatch

def text : Decoder String
  | .string s => .ok s
  | d => refuse d

/-- A whole number between two bounds. -/
def integer (least greatest : Int) : Decoder Int
  | .int n => if least ≤ n ∧ n ≤ greatest then .ok n else .error .mismatch
  | d => refuse d

def int32 : Decoder Int :=
  integer (-2147483648) 2147483647

def int64 : Decoder Int :=
  integer (-Word.leastSigned) Word.greatestSigned

def nullable (decode : Decoder α) : Decoder (Option α)
  | .null => .ok none
  | d => (decode d).map some

def all (decode : Decoder α) : List Draft → Except Fault (List α)
  | [] => .ok []
  | d :: rest => do
    let a ← decode d
    return a :: (← all decode rest)

def list (decode : Decoder α) : Decoder (List α)
  | .array items closed => do
    let values ← all decode items
    if closed then .ok values else .error .malformed
  | d => refuse d

def names : Decoder Names := fun d =>
  (list text d).map Names.ofNames

def pairs : List (String × Draft) → Except Fault (List (String × String))
  | [] => .ok []
  | (k, d) :: rest => do
    let v ← text d
    return (k, v) :: (← pairs rest)

def parameters : Decoder Parameters
  | .object fields closed => do
    let values ← pairs fields
    if closed then .ok (Parameters.ofPairs values) else .error .malformed
  | d => refuse d

/-- Any value. -/
def json : Decoder Json :=
  Draft.toJson

/-- One of some words, alone or as the only key of an object whose value is null. -/
def word (meaning : String → Option α) : Decoder α
  | .string s =>
    match meaning s with
    | some a => .ok a
    | none => .error .mismatch
  | .object ((s, d) :: rest) closed =>
    match meaning s, d with
    | some a, .null => if rest.isEmpty ∧ closed then .ok a else .error .malformed
    | some _, d => refuse d
    | none, _ => .error .mismatch
  | _ => .error .malformed

end Decoder

/-- What an absent field means. In a list of fields only trailing `defaulted` ones may be absent. -/
inductive Absence where
  | required
  | nullable
  | defaulted
  deriving DecidableEq, Repr

/-- A declared field: its name and which drafts it takes. -/
structure FieldRule where
  name : String
  check : Draft → Except Fault Unit
  absence : Absence

abbrev Slots := String → Option Draft

/-- The declared fields of a type, and the value for given fields. -/
structure Record (α : Type) where
  rules : List FieldRule
  build : Slots → Except Fault α

namespace Record

def ruleOf (name : String) (decode : Decoder α) (absence : Absence) : FieldRule :=
  ⟨name, fun d => (decode d).map fun _ => (), absence⟩

/-- A field that must be there. -/
def required (name : String) (decode : Decoder α) : Record α where
  rules := [ruleOf name decode .required]
  build slots :=
    match slots name with
    | some d => decode d
    | none => .error .mismatch

/-- A field that may be absent or null. -/
def nullable (name : String) (decode : Decoder α) : Record (Option α) where
  rules := [ruleOf name (Decoder.nullable decode) .nullable]
  build slots :=
    match slots name with
    | some d => Decoder.nullable decode d
    | none => .ok none

/-- A field that may be absent, with the value that stands for it then. -/
def defaulted (name : String) (decode : Decoder α) (value : α) : Record α where
  rules := [ruleOf name decode .defaulted]
  build slots :=
    match slots name with
    | some d => decode d
    | none => .ok value

def map (f : α → β) (r : Record α) : Record β where
  rules := r.rules
  build slots := (r.build slots).map f

def both (f : Record (α → β)) (r : Record α) : Record β where
  rules := f.rules ++ r.rules
  build slots := do
    let g ← f.build slots
    let a ← r.build slots
    return g a

instance : Functor Record where
  map := map

instance : Seq Record where
  seq f r := both f (r ())

/-- Meets the fields of an object in order. A known field is met once. -/
def walk (rules : List FieldRule) : List String → List (String × Draft) → Except Fault Unit
  | _, [] => .ok ()
  | seen, (key, d) :: rest =>
    match rules.find? fun r => r.name = key with
    | some rule =>
      if key ∈ seen then .error .mismatch
      else do
        rule.check d
        walk rules (key :: seen) rest
    | none =>
      if d.skippable then walk rules seen rest else .error .malformed

/-- Meets the items of a list against the declared fields. -/
def walkItems (closed : Bool) : List FieldRule → List Draft → Except Fault Unit
  | [], [] => if closed then .ok () else .error .malformed
  | [], _ :: _ => .error .malformed
  | rule :: rules, d :: rest => do
    rule.check d
    walkItems closed rules rest
  | rule :: rules, [] =>
    if ¬ closed then .error .malformed
    else if rule.absence = .defaulted then walkItems closed rules []
    else .error .mismatch

def decode (r : Record α) : Decoder α
  | .object fields closed => do
    walk r.rules [] fields
    if closed then r.build fun key => fields.lookup key else .error .malformed
  | .array items closed => do
    walkItems closed r.rules items
    r.build fun key => ((r.rules.map (·.name)).zip items).lookup key
  | d => Decoder.refuse d

end Record

end AccessGrants
