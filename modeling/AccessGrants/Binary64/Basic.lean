/-!
# AccessGrants.Binary64.Basic

Finite binary floating-point numbers with 53 significant bits, kept as exact integers so that
every operation on them is a statement about `Nat` and `Int`.

* `Binary64`             — a sign and a value `mantissa * 2 ^ exponent`.
* `Magnitude.ofRatio?`   — the nearest magnitude to a quotient, ties to the even neighbour.
* `Binary64.ofDecimal?`  — reads a decimal significand and a power of ten.
-/

namespace AccessGrants

/-- An unsigned binary fraction `mantissa * 2 ^ exponent`. A zero has exponent 0; any other value
has a mantissa of 53 bits, or the least exponent, -1074. -/
structure Magnitude where
  mantissa : Nat
  exponent : Int
  deriving DecidableEq, Repr, Inhabited

/-- A finite number: a sign and a magnitude. Zero has two signs. -/
structure Binary64 where
  negative : Bool
  magnitude : Magnitude
  deriving DecidableEq, Repr, Inhabited

namespace Magnitude

def zero : Magnitude := ⟨0, 0⟩

/-- A mantissa of 53 bits is at least this. -/
def leastMantissa : Nat := 4503599627370496

/-- Every mantissa is below this. -/
def mantissaBound : Nat := 2 * leastMantissa

def leastExponent : Int := -1074

/-- Above this exponent a mantissa of 53 bits is infinite. -/
def greatestExponent : Int := 971

/-- The value as a quotient of two naturals. -/
def ratio (x : Magnitude) : Nat × Nat :=
  if 0 ≤ x.exponent then (x.mantissa * Nat.pow 2 x.exponent.toNat, 1)
  else (x.mantissa, Nat.pow 2 (-x.exponent).toNat)

/-- `num / den` in units of `2 ^ e`, as a quotient of two naturals. -/
def inUnits (num den : Nat) (e : Int) : Nat × Nat :=
  if 0 ≤ e then (num, den * Nat.pow 2 e.toNat) else (num * Nat.pow 2 (-e).toNat, den)

/-- The exponent of the unit in which `num / den` has 53 bits before the point, never below the
least exponent. The two logarithms fix it up to one step. -/
def unitOf (num den : Nat) : Int :=
  let guess : Int := (num.log2 : Int) - (den.log2 : Int) - 53
  let unit := max guess leastExponent
  let (n, d) := inUnits num den unit
  if n / d < mantissaBound then unit else unit + 1

/-- The nearest whole number to `n / d`; of two equally near ones the even one. -/
def roundHalfEven (n d : Nat) : Nat :=
  let q := n / d
  let r := n % d
  if 2 * r < d then q
  else if d < 2 * r then q + 1
  else if q % 2 = 0 then q else q + 1

/-- The nearest magnitude to `num / den`; none when that is too large. -/
def ofRatio? (num den : Nat) : Option Magnitude :=
  if num = 0 then some zero
  else
    let unit := unitOf num den
    let (n, d) := inUnits num den unit
    let m := roundHalfEven n d
    let (m, unit) := if m = mantissaBound then (leastMantissa, unit + 1) else (m, unit)
    if m = 0 then some zero
    else if greatestExponent < unit then none
    else some ⟨m, unit⟩

def ofNat? (n : Nat) : Option Magnitude := ofRatio? n 1

/-- The product of two magnitudes, rounded once. -/
def mul? (x y : Magnitude) : Option Magnitude :=
  let (a, b) := x.ratio
  let (c, d) := y.ratio
  ofRatio? (a * c) (b * d)

/-- The quotient of two magnitudes, rounded once; the divisor is not zero. -/
def div? (x y : Magnitude) : Option Magnitude :=
  let (a, b) := x.ratio
  let (c, d) := y.ratio
  ofRatio? (a * d) (b * c)

/-- The greatest power of ten that has a magnitude. -/
def greatestTen : Nat := 308

/-- `x * 10 ^ k`, in steps of at most `greatestTen`, each rounded. -/
def scaleUp? : Nat → Magnitude → Nat → Option Magnitude
  | 0, _, _ => none
  | fuel + 1, x, k =>
    if k ≤ greatestTen then (ofNat? (Nat.pow 10 k)).bind (mul? x)
    else if x = zero then some zero
    else ((ofNat? (Nat.pow 10 greatestTen)).bind (mul? x)).bind fun y =>
      scaleUp? fuel y (k - greatestTen)

/-- `x / 10 ^ k`, in steps of at most `greatestTen`, each rounded. -/
def scaleDown? : Nat → Magnitude → Nat → Option Magnitude
  | 0, _, _ => some zero
  | fuel + 1, x, k =>
    if k ≤ greatestTen then (ofNat? (Nat.pow 10 k)).bind (div? x)
    else if x = zero then some zero
    else ((ofNat? (Nat.pow 10 greatestTen)).bind (div? x)).bind fun y =>
      scaleDown? fuel y (k - greatestTen)

end Magnitude

namespace Binary64

/-- Reads `significand * 10 ^ exponent`: the significand is rounded first, then scaled in rounded
steps. None when the value is too large. A power of ten beyond two steps is out of range whatever
the significand, and four steps down leave nothing. -/
def ofDecimal? (negative : Bool) (significand : Nat) (exponent : Int) : Option Binary64 := do
  let x ← Magnitude.ofNat? significand
  let scaled ←
    if 0 ≤ exponent then
      if x = Magnitude.zero then some x
      else if exponent ≤ Magnitude.greatestTen then Magnitude.scaleUp? 1 x exponent.toNat
      else none
    else Magnitude.scaleDown? 4 x (-exponent).toNat
  return ⟨negative, scaled⟩

/-- The same number without the sign of a zero, under which the two zeros are one. -/
def unsignedZero (x : Binary64) : Binary64 :=
  if x.magnitude = Magnitude.zero then ⟨false, Magnitude.zero⟩ else x

end Binary64

end AccessGrants
