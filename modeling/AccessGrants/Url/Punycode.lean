import AccessGrants.Text.Split

/-!
# AccessGrants.Url.Punycode

The ASCII form of a label of a domain name. The characters beyond ASCII are written behind the
others as numbers, each of which tells how far it is to the next insertion.

* `Punycode.decode?` — the label of an ASCII form, without the mark in front of it.
-/

namespace AccessGrants.Url.Punycode

/-- Letters are the digits from 0 on, and decimal digits those from 26 on. -/
def digit? (c : Char) : Option Nat :=
  if 'a' ≤ c ∧ c ≤ 'z' then some (c.toNat - 'a'.toNat)
  else if 'A' ≤ c ∧ c ≤ 'Z' then some (c.toNat - 'A'.toNat)
  else if '0' ≤ c ∧ c ≤ '9' then some (c.toNat - '0'.toNat + 26)
  else none

/-- A digit below the threshold of its place is the last one of a number. -/
def threshold (place bias : Nat) : Nat :=
  max 1 (min 26 (place - bias))

/-- The number at the front of a text. Places count in steps of 36. -/
def number? (bias : Nat) : Nat → Nat → Nat → List Char → Option (Nat × List Char)
  | _, _, _, [] => none
  | place, weight, value, c :: rest => do
    let digit ← digit? c
    let value := value + digit * weight
    let least := threshold place bias
    if digit < least then some (value, rest)
    else number? bias (place + 36) (weight * (36 - least)) value rest

/-- Divides a step until it is small, and counts the divisions in steps of 36. -/
def shrink : Nat → Nat → Nat → Nat × Nat
  | 0, step, places => (step, places)
  | fuel + 1, step, places =>
    if 455 < step then shrink fuel (step / 35) (places + 36) else (step, places)

/-- The bias after a step to a label of some length. -/
def adapt (first : Bool) (step length : Nat) : Nat :=
  let step := if first then step / 700 else step / 2
  let (step, places) := shrink step (step + step / length) 0
  places + 36 * step / (step + 38)

/-- Inserts the characters that a text tells. A round reads at least one character of it. -/
def insertAll : Nat → Nat → Nat → Nat → Bool → List Char → List Char → Option (List Char)
  | _, _, _, _, _, label, [] => some label
  | 0, _, _, _, _, _, _ :: _ => none
  | fuel + 1, code, place, bias, first, label, c :: cs => do
    let (step, rest) ← number? bias 36 1 0 (c :: cs)
    let length := label.length + 1
    let code := code + (place + step) / length
    let place := (place + step) % length
    if code.isValidChar then
      insertAll fuel code (place + 1) (adapt first step length) false
        (label.insertIdx place (Char.ofNat code)) rest
    else none

/-- The ASCII characters stand before the last hyphen. -/
def decode? (cs : List Char) : Option (List Char) :=
  match Text.cut? '-' cs.reverse with
  | some (after, before) =>
    if before.isEmpty || before.any (128 ≤ ·.toNat) then none
    else insertAll cs.length 128 0 72 true before.reverse after.reverse
  | none => insertAll cs.length 128 0 72 true [] cs

end AccessGrants.Url.Punycode
