/-!
# AccessGrants.Text.Percent

Percent-encoding: a byte is written as `%` and two hexadecimal digits. A `%` that is not followed
by two digits stands for itself.

* `Percent.decode`  — the bytes of a text.
* `Percent.text?`   — the text of those bytes, if they are UTF-8.
* `Percent.encode`  — writes the bytes of every character that a set names.
-/

namespace AccessGrants.Percent

def hexValue? (c : Char) : Option Nat :=
  if c.isDigit then some (c.toNat - '0'.toNat)
  else if 'a' ≤ c ∧ c ≤ 'f' then some (c.toNat - 'a'.toNat + 10)
  else if 'A' ≤ c ∧ c ≤ 'F' then some (c.toNat - 'A'.toNat + 10)
  else none

def utf8Bytes (c : Char) : List UInt8 :=
  (String.singleton c).toUTF8.toList

/-- Skips the two digits after a `%` that was read. -/
def decodeFrom : Nat → List Char → List UInt8
  | _, [] => []
  | skip + 1, _ :: rest => decodeFrom skip rest
  | 0, c :: rest =>
    if c = '%' then
      match rest with
      | a :: b :: _ =>
        match hexValue? a, hexValue? b with
        | some x, some y => UInt8.ofNat (x * 16 + y) :: decodeFrom 2 rest
        | _, _ => utf8Bytes c ++ decodeFrom 0 rest
      | _ => utf8Bytes c ++ decodeFrom 0 rest
    else utf8Bytes c ++ decodeFrom 0 rest

def decode (cs : List Char) : List UInt8 :=
  decodeFrom 0 cs

def text? (cs : List Char) : Option String :=
  String.fromUTF8? ⟨(decode cs).toArray⟩

def hexDigit (n : Nat) : Char :=
  if n < 10 then Char.ofNat ('0'.toNat + n) else Char.ofNat ('A'.toNat + (n - 10))

def encodedByte (b : UInt8) : List Char :=
  ['%', hexDigit (b.toNat / 16), hexDigit (b.toNat % 16)]

/-- Encodes the characters of `reserved`, the control characters and every character beyond ASCII;
all others stand for themselves. -/
def encode (reserved : List Char) (cs : List Char) : List Char :=
  cs.flatMap fun c =>
    if c.toNat < 32 ∨ 126 < c.toNat ∨ c ∈ reserved then (utf8Bytes c).flatMap encodedByte else [c]

end AccessGrants.Percent
