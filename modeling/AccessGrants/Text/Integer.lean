/-!
# AccessGrants.Text.Integer

Whole numbers in text: an optional sign and one or more decimal digits, read into a range.

* `IntegerError`      — why a text is not a number of the range.
* `parseUnsigned`     — numbers from 0 up to a bound; a minus sign is not a digit.
* `parseSigned`       — numbers between two bounds.
* `padded`            — a number with leading zeros.
-/

namespace AccessGrants.Text

inductive IntegerError where
  | empty
  | invalidDigit
  | tooLarge
  | tooSmall
  deriving DecidableEq, Repr

namespace IntegerError

def message : IntegerError → String
  | empty => "cannot parse integer from empty string"
  | invalidDigit => "invalid digit found in string"
  | tooLarge => "number too large to fit in target type"
  | tooSmall => "number too small to fit in target type"

end IntegerError

/-- Reads digits from the left while the value stays within `limit`; whichever of a foreign
character and a value beyond the limit comes first is the error. -/
def readDigits (limit : Nat) (beyond : IntegerError) : Nat → List Char → Except IntegerError Nat
  | acc, [] => .ok acc
  | acc, c :: cs =>
    if ¬ c.isDigit then .error .invalidDigit
    else if limit < acc * 10 + (c.toNat - '0'.toNat) then
      .error beyond
    else readDigits limit beyond (acc * 10 + (c.toNat - '0'.toNat)) cs

/-- A number from 0 to `greatest`, with an optional plus sign. -/
def parseUnsigned (greatest : Nat) (text : String) : Except IntegerError Nat :=
  match text.toList with
  | [] => .error .empty
  | ['+'] => .error .invalidDigit
  | ['-'] => .error .invalidDigit
  | '+' :: cs => readDigits greatest .tooLarge 0 cs
  | cs => readDigits greatest .tooLarge 0 cs

/-- A number from `-least` to `greatest`, with an optional sign. -/
def parseSigned (least greatest : Nat) (text : String) : Except IntegerError Int :=
  match text.toList with
  | [] => .error .empty
  | ['+'] => .error .invalidDigit
  | ['-'] => .error .invalidDigit
  | '+' :: cs => (readDigits greatest .tooLarge 0 cs).map Int.ofNat
  | '-' :: cs => (readDigits least .tooSmall 0 cs).map fun n => -(n : Int)
  | cs => (readDigits greatest .tooLarge 0 cs).map Int.ofNat

/-- The decimal digits of `n`, with leading zeros up to a width. -/
def padded (width n : Nat) : String :=
  let digits := (Nat.repr n).toList
  String.ofList (List.replicate (width - digits.length) '0' ++ digits)

end AccessGrants.Text
