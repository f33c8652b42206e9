import AccessGrants.Binary64.Basic

/-!
# AccessGrants.Binary64.Shortest

The decimal text of a float: the fewest digits that read back as the same number, and of those the
digits nearest to it.

* `Magnitude.shortest` — digits and power of ten.
* `Binary64.render`    — their layout.
-/

namespace AccessGrants

namespace Magnitude

/-- The interval of reals that round to a magnitude, in quarters of its last binary place, with
its middle. Below a power of two the gap is half as wide. -/
structure Neighbourhood where
  low : Nat
  middle : Nat
  high : Nat
  unit : Int
  closed : Bool

def neighbourhood (x : Magnitude) : Neighbourhood where
  low := if x.mantissa = leastMantissa ∧ leastExponent < x.exponent then 4 * x.mantissa - 1
    else 4 * x.mantissa - 2
  middle := 4 * x.mantissa
  high := 4 * x.mantissa + 2
  unit := x.exponent - 2
  closed := x.mantissa % 2 = 0

/-- Whether `n * 10 ^ p` lies in the interval. -/
def Neighbourhood.holds (i : Neighbourhood) (n : Nat) (p : Int) : Bool :=
  let (a, b) := if 0 ≤ p then (n * Nat.pow 10 p.toNat, 1) else (n, Nat.pow 10 (-p).toNat)
  let (u, v) := if 0 ≤ i.unit then (Nat.pow 2 i.unit.toNat, 1)
    else (1, Nat.pow 2 (-i.unit).toNat)
  let (lower, point, upper) := (i.low * u * b, a * v, i.high * u * b)
  if i.closed then decide (lower ≤ point ∧ point ≤ upper)
  else decide (lower < point ∧ point < upper)

/-- The points of the grid `10 ^ p` on the two sides of the middle that lie in the interval, the
nearer first; an exact tie goes to the even one. -/
def Neighbourhood.hit? (i : Neighbourhood) (p : Int) : Option Nat :=
  let (num, den) := if 0 ≤ i.unit then (i.middle * Nat.pow 2 i.unit.toNat, 1)
    else (i.middle, Nat.pow 2 (-i.unit).toNat)
  let (num, den) := if 0 ≤ p then (num, den * Nat.pow 10 p.toNat)
    else (num * Nat.pow 10 (-p).toNat, den)
  let q := num / den
  let r := num % den
  let nearer := if 2 * r < den ∨ (2 * r = den ∧ q % 2 = 0) then q else q + 1
  let farther := if nearer = q then q + 1 else q
  if nearer ≠ 0 ∧ i.holds nearer p then some nearer
  else if farther ≠ 0 ∧ i.holds farther p then some farther
  else none

/-- Tries the grids from `10 ^ top` down and takes the first that has a point in the interval. -/
def Neighbourhood.search (i : Neighbourhood) : Nat → Int → Nat × Int
  | 0, top => (0, top)
  | steps + 1, top =>
    match i.hit? top with
    | some n => (n, top)
    | none => i.search steps (top - 1)

/-- The digits and the power of ten of the shortest decimal that reads back as `x`. -/
def shortest (x : Magnitude) : Nat × Int :=
  x.neighbourhood.search 640 309

end Magnitude

namespace Binary64

/-- Where the layout changes: a decimal point at one of the first `maxPoint` places, or after at
most `maxZeros` zeros, is written out; any other value has an exponent. -/
structure Layout where
  maxPoint : Int
  maxZeros : Int

/-- A whole number keeps `.0`; `e` stands in front of an exponent without sign `+`. -/
def layout : Layout := ⟨16, 5⟩

def renderMagnitude (x : Magnitude) : String :=
  if x = Magnitude.zero then "0.0"
  else
    let (n, p) := x.shortest
    let digits := (toString n).toList
    let point : Int := digits.length + p
    if 0 ≤ p ∧ point ≤ layout.maxPoint then
      String.ofList (digits ++ List.replicate p.toNat '0') ++ ".0"
    else if 0 < point ∧ point ≤ layout.maxPoint then
      String.ofList (digits.take point.toNat) ++ "." ++ String.ofList (digits.drop point.toNat)
    else if -layout.maxZeros < point ∧ point ≤ 0 then
      "0." ++ String.ofList (List.replicate (-point).toNat '0' ++ digits)
    else
      let tail := match digits.drop 1 with
        | [] => ""
        | rest => "." ++ String.ofList rest
      String.ofList (digits.take 1) ++ tail ++ "e" ++ toString (point - 1)

/-- The text of a number, with a minus sign also on the negative zero. -/
def render (x : Binary64) : String :=
  if x.negative then "-" ++ renderMagnitude x.magnitude else renderMagnitude x.magnitude

end Binary64

end AccessGrants
