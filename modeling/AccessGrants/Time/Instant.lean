import AccessGrants.Time.Calendar

/-!
# AccessGrants.Time.Instant

Points in time: whole seconds since the first of January 1970 in UTC, and nanoseconds. A second
whose nanoseconds reach one thousand million is inside a leap second.

* `Instant`              — ordered by seconds, then nanoseconds.
* `Instant.representable`— from year -262143 to year 262142.
* `Instant.addSeconds?`, `Instant.addMillis?` — none when the result is not representable.
* `Instant.toMillis`     — whole milliseconds, rounded down.
-/

namespace AccessGrants

structure Instant where
  seconds : Int
  nanos : Nat
  deriving DecidableEq, Repr, Inhabited

namespace Instant

/-- Nanoseconds of a second. -/
def billion : Nat := 1000000000

def secondsPerDay : Int := 86400

/-- Midnight before the first representable day. -/
def leastSecond : Int :=
  (Calendar.Date.mk (-262143) 1 1).dayNumber * secondsPerDay

/-- The last second of the last representable day. -/
def greatestSecond : Int :=
  (Calendar.Date.mk 262142 12 31).dayNumber * secondsPerDay + 86399

def representable (t : Instant) : Bool :=
  leastSecond ≤ t.seconds && t.seconds ≤ greatestSecond

def least : Instant := ⟨leastSecond, 0⟩

def greatest : Instant := ⟨greatestSecond, 999999999⟩

instance : LT Instant where
  lt a b := a.seconds < b.seconds ∨ (a.seconds = b.seconds ∧ a.nanos < b.nanos)

instance : LE Instant where
  le a b := a.seconds < b.seconds ∨ (a.seconds = b.seconds ∧ a.nanos ≤ b.nanos)

instance (a b : Instant) : Decidable (a < b) :=
  inferInstanceAs (Decidable (_ ∨ _))

instance (a b : Instant) : Decidable (a ≤ b) :=
  inferInstanceAs (Decidable (_ ∨ _))

theorem lt_iff {a b : Instant} :
    a < b ↔ a.seconds < b.seconds ∨ (a.seconds = b.seconds ∧ a.nanos < b.nanos) := Iff.rfl

theorem le_iff {a b : Instant} :
    a ≤ b ↔ a.seconds < b.seconds ∨ (a.seconds = b.seconds ∧ a.nanos ≤ b.nanos) := Iff.rfl

/-- Moves a time by seconds and nanoseconds of one sign. A move that leaves a leap second forward
leaves it at its start, and one that leaves it backward at its end. -/
def shift (t : Instant) (seconds nanos : Int) : Instant :=
  let inLeap := billion ≤ t.nanos
  let forward := decide (0 < seconds) ||
    (decide (0 < nanos) && decide ((2 * billion : Nat) - nanos ≤ (t.nanos : Int)))
  if inLeap && !forward && decide (0 ≤ seconds) then
    ⟨t.seconds, ((t.nanos : Int) + nanos).toNat⟩
  else
    let start := if inLeap && !forward then t.seconds + 1 else t.seconds
    let fraction : Int := (if inLeap then t.nanos - billion else t.nanos : Nat) + nanos
    ⟨start + seconds + fraction / billion, (fraction % billion).toNat⟩

/-- The time, if it is representable. -/
def checked (t : Instant) : Option Instant :=
  if t.representable then some t else none

/-- The longest duration in whole seconds whose milliseconds fit 64 bits. -/
def greatestDuration : Int := 9223372036854775

/-- The time after some seconds; none when the duration or the result is out of range. -/
def addSeconds? (t : Instant) (seconds : Int) : Option Instant :=
  if -greatestDuration ≤ seconds ∧ seconds ≤ greatestDuration then
    (t.shift seconds 0).checked
  else none

/-- The time after some milliseconds; none when the result is out of range. -/
def addMillis? (t : Instant) (millis : Int) : Option Instant :=
  (t.shift (millis.tdiv 1000) (millis.tmod 1000 * 1000000)).checked

/-- Milliseconds since the first of January 1970, rounded down. -/
def toMillis (t : Instant) : Int :=
  t.seconds * 1000 + (t.nanos / 1000000 : Nat)

/-- The time of a millisecond; one beyond the representable times is taken back to the nearest. -/
def ofMillis (millis : Int) : Instant :=
  let t : Instant := ⟨millis / 1000, (millis % 1000).toNat * 1000000⟩
  if t.representable then t else if millis < 0 then least else greatest

/-- The time without what is finer than a millisecond. -/
def floorMillis (t : Instant) : Instant :=
  ofMillis t.toMillis

end Instant

end AccessGrants
