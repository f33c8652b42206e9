import AccessGrants.Json.Draft
import AccessGrants.Word

/-!
# AccessGrants.Json.Reader

Reads JSON text into a draft.

* `Reader.number` — the longest number at the front of a text.
* `Reader.quoted` — the rest of a quoted text.
* `Reader.value`  — one value with the text after it, or the draft of what came before a fault.
* `Draft.ofText`  — a whole text, with whether anything but blanks follows the value.
* `Json.parse?`   — the value of a text that is exactly one value.
-/

namespace AccessGrants

namespace Reader

def isBlank (c : Char) : Bool :=
  c = ' ' || c = '\n' || c = '\t' || c = '\r'

def skipBlanks (cs : List Char) : List Char :=
  cs.dropWhile isBlank

def digitValue (c : Char) : Nat :=
  c.toNat - '0'.toNat

/-- Appends digits to a significand while it stays a word, and gives the digits that did not
fit. -/
def gather (significand : Nat) : List Char → Nat × List Char
  | [] => (significand, [])
  | c :: cs =>
    if significand * 10 + digitValue c ≤ Word.greatest then
      gather (significand * 10 + digitValue c) cs
    else (significand, c :: cs)

/-- The parts of a number as they are written. -/
structure Numeral where
  negative : Bool
  whole : List Char
  fraction : Option (List Char)
  exponent : Option (Bool × List Char)

/-- The value of a number. Without a point and an exponent it is a whole number if it fits 64 bits,
signed or not; else it is a float, and `-0` is one too. Digits beyond 64 bits only count as powers
of ten. -/
def Numeral.value (n : Numeral) : Draft :=
  let (significand, dropped) := gather 0 n.whole
  let asFloat (significand : Nat) (power : Int) : Draft :=
    match Binary64.ofDecimal? n.negative significand power with
    | some x => .float x
    | none => .unreadable
  match n.fraction, n.exponent, dropped with
  | none, none, [] =>
    if !n.negative then .int significand
    else if 0 < significand ∧ significand ≤ Word.leastSigned then .int (-significand)
    else asFloat significand 0
  | _, _, _ =>
    let fraction := n.fraction.getD []
    let (significand, ignored) := gather significand fraction
    let power : Int := dropped.length - (fraction.length - ignored.length : Nat)
    let shift : Int := match n.exponent with
      | none => 0
      | some (down, digits) =>
        let e := digits.foldl (fun acc c => acc * 10 + digitValue c) 0
        if down then -(e : Int) else e
    asFloat significand (power + shift)

/-- The fraction of a number, and the text after it; none for a point without digits. -/
def fraction (cs : List Char) : Option (Option (List Char) × List Char) :=
  match cs with
  | '.' :: rest =>
    let digits := rest.takeWhile Char.isDigit
    if digits.isEmpty then none else some (some digits, rest.dropWhile Char.isDigit)
  | _ => some (none, cs)

/-- The exponent of a number with whether it is negative; none for a mark without digits. -/
def exponent (cs : List Char) : Option (Option (Bool × List Char) × List Char) :=
  let digitsOf (down : Bool) (rest : List Char) : Option (Option (Bool × List Char) × List Char) :=
    let digits := rest.takeWhile Char.isDigit
    if digits.isEmpty then none else some (some (down, digits), rest.dropWhile Char.isDigit)
  match cs with
  | c :: rest =>
    if c = 'e' ∨ c = 'E' then
      match rest with
      | '+' :: rest => digitsOf false rest
      | '-' :: rest => digitsOf true rest
      | rest => digitsOf false rest
    else some (none, cs)
  | [] => some (none, [])

/-- A number at the front of a text. A leading zero stands alone before the point. -/
def number (cs : List Char) : Option (Draft × List Char) := do
  let (negative, cs) := match cs with
    | '-' :: rest => (true, rest)
    | rest => (false, rest)
  let whole := cs.takeWhile Char.isDigit
  if whole.isEmpty ∨ (whole.head? = some '0' ∧ 1 < whole.length) then none
  else
    let (fraction, cs) ← fraction (cs.dropWhile Char.isDigit)
    let (exponent, cs) ← exponent cs
    return ((Numeral.value ⟨negative, whole, fraction, exponent⟩), cs)

def hexValue? (c : Char) : Option Nat :=
  if c.isDigit then some (c.toNat - '0'.toNat)
  else if 'a' ≤ c ∧ c ≤ 'f' then some (c.toNat - 'a'.toNat + 10)
  else if 'A' ≤ c ∧ c ≤ 'F' then some (c.toNat - 'A'.toNat + 10)
  else none

/-- Four hexadecimal digits. -/
def hexWord? : List Char → Option (Nat × List Char)
  | a :: b :: c :: d :: rest => do
    let w ← hexValue? a
    let x ← hexValue? b
    let y ← hexValue? c
    let z ← hexValue? d
    return (((w * 16 + x) * 16 + y) * 16 + z, rest)
  | _ => none

def isLeading (word : Nat) : Bool :=
  0xD800 ≤ word && word < 0xDC00

def isTrailing (word : Nat) : Bool :=
  0xDC00 ≤ word && word < 0xE000

/-- The character that a one-letter escape stands for. -/
def simpleEscape? (c : Char) : Option Char :=
  if c = '"' then some '"'
  else if c = '\\' then some '\\'
  else if c = '/' then some '/'
  else if c = 'b' then some (Char.ofNat 8)
  else if c = 'f' then some (Char.ofNat 12)
  else if c = 'n' then some '\n'
  else if c = 'r' then some '\r'
  else if c = 't' then some '\t'
  else none

/-- The text up to the closing quote and what follows it. The text is missing when it holds half a
surrogate pair; nothing comes back when the quoted text is malformed. -/
def quoted : Nat → List Char → Option (Option (List Char) × List Char)
  | 0, _ => none
  | _, [] => none
  | fuel + 1, c :: cs =>
    if c = '"' then some (some [], cs)
    else if c = '\\' then
      match cs with
      | [] => none
      | 'u' :: cs => do
        let (word, cs) ← hexWord? cs
        if isLeading word then
          match cs with
          | '\\' :: 'u' :: after => do
            let (second, rest) ← hexWord? after
            if isTrailing second then
              let code := 0x10000 + (word - 0xD800) * 0x400 + (second - 0xDC00)
              let (text, rest) ← quoted fuel rest
              return (text.map (Char.ofNat code :: ·), rest)
            else
              let (_, rest) ← quoted fuel cs
              return (none, rest)
          | _ => do
            let (_, rest) ← quoted fuel cs
            return (none, rest)
        else do
          let (text, rest) ← quoted fuel cs
          return (if isTrailing word then none else text.map (Char.ofNat word :: ·), rest)
      | e :: cs => do
        let x ← simpleEscape? e
        let (text, rest) ← quoted fuel cs
        return (text.map (x :: ·), rest)
    else if c.toNat < 32 then none
    else do
      let (text, rest) ← quoted fuel cs
      return (text.map (c :: ·), rest)

mutual

/-- One value and the text after it, which is missing when the text broke off inside. The fuel
bounds the length of the text. -/
def value : Nat → List Char → Draft × Option (List Char)
  | 0, _ => (.broken, none)
  | fuel + 1, cs =>
    match skipBlanks cs with
    | 'n' :: 'u' :: 'l' :: 'l' :: rest => (.null, some rest)
    | 't' :: 'r' :: 'u' :: 'e' :: rest => (.bool true, some rest)
    | 'f' :: 'a' :: 'l' :: 's' :: 'e' :: rest => (.bool false, some rest)
    | '"' :: rest =>
      match quoted (rest.length + 1) rest with
      | some (some text, rest) => (.string (String.ofList text), some rest)
      | some (none, rest) => (.unreadable, some rest)
      | none => (.broken, none)
    | '[' :: rest =>
      match skipBlanks rest with
      | ']' :: rest => (.array [] true, some rest)
      | rest =>
        let (items, rest) := items fuel rest
        (.array items rest.isSome, rest)
    | '{' :: rest =>
      match skipBlanks rest with
      | '}' :: rest => (.object [] true, some rest)
      | rest =>
        let (fields, rest) := fields fuel rest
        (.object fields rest.isSome, rest)
    | rest =>
      match number rest with
      | some (n, rest) => (n, some rest)
      | none => (.broken, none)

/-- The values of a list from one value on. -/
def items : Nat → List Char → List Draft × Option (List Char)
  | 0, _ => ([], none)
  | fuel + 1, cs =>
    match skipBlanks cs with
    | ']' :: _ => ([], none)
    | cs =>
      match value fuel cs with
      | (item, none) => ([item], none)
      | (item, some rest) =>
        match skipBlanks rest with
        | ',' :: rest =>
          let (more, rest) := items fuel rest
          (item :: more, rest)
        | ']' :: rest => ([item], some rest)
        | _ => ([item], none)

/-- The fields of an object from one key on. -/
def fields : Nat → List Char → List (String × Draft) × Option (List Char)
  | 0, _ => ([], none)
  | fuel + 1, cs =>
    match skipBlanks cs with
    | '"' :: rest =>
      match quoted (rest.length + 1) rest with
      | some (some key, rest) =>
        let key := String.ofList key
        match skipBlanks rest with
        | ':' :: rest =>
          match value fuel rest with
          | (item, none) => ([(key, item)], none)
          | (item, some rest) =>
            match skipBlanks rest with
            | ',' :: rest =>
              let (more, rest) := fields fuel rest
              ((key, item) :: more, rest)
            | '}' :: rest => ([(key, item)], some rest)
            | _ => ([(key, item)], none)
        | _ => ([(key, .broken)], none)
      | _ => ([], none)
    | _ => ([], none)

end

end Reader

/-- Lists and objects in a text may be nested this deep. -/
def Draft.greatestDepth : Nat := 127

/-- The draft of a whole text, and whether more than blanks follows a complete value. -/
def Draft.ofText (text : String) : Draft × Bool :=
  let cs := text.toList
  let (draft, rest) := Reader.value (2 * cs.length + 2) cs
  (draft.limited greatestDepth, rest.any fun cs => !(Reader.skipBlanks cs).isEmpty)

/-- The value of a text that is exactly one value. -/
def Json.parse? (text : String) : Option Json :=
  match Draft.ofText text with
  | (draft, false) => draft.toJson.toOption
  | (_, true) => none

end AccessGrants
