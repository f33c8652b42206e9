import AccessGrants.Text.Blank
import AccessGrants.Text.Integer
import AccessGrants.Time.Instant

/-!
# AccessGrants.Time.Rfc3339

Dates and times in the notation of RFC 3339.

* `Rfc3339.render`       — a time in UTC with 0, 3, 6 or 9 digits after the seconds.
* `Rfc3339.parse?`       — the notation with blanks between its parts, signed years and loose
                           offsets.
* `Rfc3339.parseStrict?` — the notation to the letter, in whole milliseconds.
-/

namespace AccessGrants.Rfc3339

open Text (trimStart padded)

/-- A year of four digits; any other year has a sign. -/
def renderYear (year : Int) : String :=
  if 0 ≤ year ∧ year ≤ 9999 then padded 4 year.toNat
  else if year < 0 then "-" ++ padded 4 (-year).toNat
  else "+" ++ padded 4 year.toNat

/-- The fewest groups of three digits that lose nothing. -/
def renderFraction (nanos : Nat) : String :=
  if nanos = 0 then ""
  else if nanos % 1000000 = 0 then "." ++ padded 3 (nanos / 1000000)
  else if nanos % 1000 = 0 then "." ++ padded 6 (nanos / 1000)
  else "." ++ padded 9 nanos

/-- A time in UTC, with the given text for the offset. Second 60 is a leap second. -/
def renderWith (offset : String) (t : Instant) : String :=
  let date := Calendar.Date.ofDayNumber (t.seconds / Instant.secondsPerDay)
  let second := (t.seconds % Instant.secondsPerDay).toNat
  let leap := if Instant.billion ≤ t.nanos then 1 else 0
  renderYear date.year ++ "-" ++ padded 2 date.month ++ "-" ++ padded 2 date.day ++ "T" ++
    padded 2 (second / 3600) ++ ":" ++ padded 2 (second / 60 % 60) ++ ":" ++
    padded 2 (second % 60 + leap) ++ renderFraction (t.nanos - leap * Instant.billion) ++ offset

/-- A time with `Z` for its offset. -/
def render (t : Instant) : String :=
  renderWith "Z" t

/-- A time with `+00:00` for its offset. -/
def renderZeroOffset (t : Instant) : String :=
  renderWith "+00:00" t

def natOf (digits : List Char) : Nat :=
  digits.foldl (fun acc c => acc * 10 + (c.toNat - '0'.toNat)) 0

/-- One to `width` digits. -/
def number? (width : Nat) (cs : List Char) : Option (Nat × List Char) :=
  let digits := (cs.take width).takeWhile Char.isDigit
  if digits.isEmpty then none else some (natOf digits, cs.drop digits.length)

/-- A number after blanks. -/
def field? (width : Nat) (cs : List Char) : Option (Nat × List Char) :=
  number? width (trimStart cs)

def expect? (c : Char) (cs : List Char) : Option (List Char) :=
  match cs with
  | d :: rest => if c = d then some rest else none
  | [] => none

/-- A year after blanks: four digits at most, or any number of digits after a sign. -/
def year? (cs : List Char) : Option (Int × List Char) :=
  match trimStart cs with
  | '-' :: rest => (number? rest.length rest).map fun (n, rest) => (-(n : Int), rest)
  | '+' :: rest => (number? rest.length rest).map fun (n, rest) => ((n : Int), rest)
  | rest => (number? 4 rest).map fun (n, rest) => ((n : Int), rest)

/-- Digits after a point, in nanoseconds; digits beyond the ninth are dropped. -/
def fraction? (cs : List Char) : Option (Nat × List Char) :=
  match cs with
  | '.' :: rest =>
    let digits := rest.takeWhile Char.isDigit
    if digits.isEmpty then none
    else
      let kept := digits.take 9
      some (natOf kept * Nat.pow 10 (9 - kept.length), rest.dropWhile Char.isDigit)
  | _ => some (0, cs)

/-- Two digits, hours or minutes of an offset. -/
def pair? (cs : List Char) : Option (Nat × List Char) :=
  match cs with
  | a :: b :: rest => if a.isDigit ∧ b.isDigit then some (natOf [a, b], rest) else none
  | _ => none

/-- An offset in seconds east of UTC: `Z`, `UTC`, or a sign, hours and minutes, with any colons and
blanks between the two. -/
def offset? (cs : List Char) : Option (Int × List Char) :=
  match cs with
  | [] => none
  | sign :: rest =>
    if ((cs.take 3).map Char.toLower) = ['u', 't', 'c'] then some (0, cs.drop 3)
    else if sign = 'Z' ∨ sign = 'z' then some (0, rest)
    else if sign = '+' ∨ sign = '-' ∨ sign.toNat = 0x2212 then do
      let (hours, rest) ← pair? rest
      let (minutes, rest) ← pair? (rest.dropWhile fun c => c = ':' || Text.isBlank c)
      if minutes < 60 then
        let seconds : Int := hours * 3600 + minutes * 60
        some (if sign = '+' then seconds else -seconds, rest)
      else none
    else none

/-- The time of a date and a time of day at an offset. Second 60 is a leap second. -/
def assemble (date : Calendar.Date) (hour minute second nanos : Nat) (offset : Int) :
    Option Instant :=
  if date.valid ∧ hour < 24 ∧ minute < 60 ∧ second ≤ 60 then
    let leap := if second = 60 then 1 else 0
    let local' : Instant :=
      ⟨date.dayNumber * Instant.secondsPerDay + hour * 3600 + minute * 60 + (second - leap : Nat),
        nanos + leap * Instant.billion⟩
    if local'.representable then
      (Instant.mk (local'.seconds - offset) local'.nanos).checked
    else none
  else none

/-- Reads a time. Blanks may stand before every number, the date and the time are divided by `T` or
a blank, and the offset is less than a day. -/
def parse? (text : String) : Option Instant := do
  let (year, cs) ← year? text.toList
  let cs ← expect? '-' (trimStart cs)
  let (month, cs) ← field? 2 cs
  let cs ← expect? '-' (trimStart cs)
  let (day, cs) ← field? 2 cs
  let cs ← match cs with
    | 'T' :: rest | 't' :: rest | ' ' :: rest => some rest
    | _ => none
  let (hour, cs) ← field? 2 cs
  let cs ← expect? ':' (trimStart cs)
  let (minute, cs) ← field? 2 cs
  let cs ← expect? ':' (trimStart cs)
  let (second, cs) ← field? 2 cs
  let (nanos, cs) ← fraction? cs
  let (offset, cs) ← offset? (trimStart cs)
  if ¬ (trimStart cs).isEmpty then none
  else if offset.natAbs < 86400 then assemble ⟨year, month, day⟩ hour minute second nanos offset
  else none

/-- Exactly `width` digits. -/
def digits? (width : Nat) (cs : List Char) : Option (Nat × List Char) :=
  let digits := cs.take width
  if digits.length = width ∧ digits.all Char.isDigit then some (natOf digits, cs.drop width)
  else none

/-- Reads a time to the letter, in milliseconds rounded toward 1970: years have four digits, any
ASCII character divides date and time, hours of an offset are below 24, and second 60 only ends a
month in UTC. -/
def parseStrict? (text : String) : Option Int := do
  let (year, cs) ← digits? 4 text.toList
  let cs ← expect? '-' cs
  let (month, cs) ← digits? 2 cs
  let cs ← expect? '-' cs
  let (day, cs) ← digits? 2 cs
  let cs ← match cs with
    | separator :: rest => if separator.toNat < 128 then some rest else none
    | [] => none
  let (hour, cs) ← digits? 2 cs
  let cs ← expect? ':' cs
  let (minute, cs) ← digits? 2 cs
  let cs ← expect? ':' cs
  let (second, cs) ← digits? 2 cs
  let (nanos, cs) ← fraction? cs
  let offset : Int ← match cs with
    | ['Z'] | ['z'] => some 0
    | sign :: cs => do
      let (hours, cs) ← digits? 2 cs
      let cs ← expect? ':' cs
      let (minutes, cs) ← digits? 2 cs
      if cs.isEmpty ∧ hours < 24 ∧ minutes < 60 ∧ (sign = '+' ∨ sign = '-') then
        let seconds : Int := hours * 3600 + minutes * 60
        some (if sign = '+' then seconds else -seconds)
      else none
    | [] => none
  let leap := second = 60
  let t ← assemble ⟨year, month, day⟩ hour minute (if leap then 59 else second)
    (if leap then 999999999 else nanos) offset
  let day := Calendar.Date.ofDayNumber (t.seconds / Instant.secondsPerDay)
  let endsMonth := t.seconds % Instant.secondsPerDay = 86399 ∧
    day.day = Calendar.monthLength (Calendar.isLeap day.year) day.month
  if leap ∧ ¬ endsMonth then none
  else some ((t.seconds * Instant.billion + t.nanos).tdiv 1000000)

end AccessGrants.Rfc3339
