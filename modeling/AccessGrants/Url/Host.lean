import AccessGrants.Text.Blank
import AccessGrants.Text.Lowercase
import AccessGrants.Text.Percent
import AccessGrants.Text.Split
import AccessGrants.Url.Punycode

/-!
# AccessGrants.Url.Host

Which texts name the host of a URL.

* `isIpv4`   — one to four numbers of which the last fills the rest of the address.
* `isIpv6`   — eight groups of hexadecimal digits, of which one run may be left out.
* `isDomain` — the host of a web address: a domain name or one of the two kinds of addresses.
* `isPlain`  — the host of any other address.
-/

namespace AccessGrants.Url

/-- The value of a digit below a base. -/
def digitBelow? (base : Nat) (c : Char) : Option Nat :=
  (Percent.hexValue? c).filter (· < base)

def numeral? (base : Nat) (cs : List Char) : Option Nat :=
  cs.foldlM (fun acc c => (digitBelow? base c).map (acc * base + ·)) 0

/-- A part of an address: hexadecimal after `0x`, octal after `0`, else decimal. -/
def addressPart? : List Char → Option Nat
  | [] => none
  | '0' :: 'x' :: cs => numeral? 16 cs
  | '0' :: 'X' :: cs => numeral? 16 cs
  | ['0'] => some 0
  | '0' :: cs => numeral? 8 cs
  | cs => numeral? 10 cs

/-- The parts between the dots; one dot at the end is dropped. -/
def dotted (cs : List Char) : List (List Char) :=
  let parts := Text.split '.' cs
  if parts.getLast? = some [] ∧ 1 < parts.length then parts.dropLast else parts

def isIpv4 (cs : List Char) : Bool :=
  match (dotted cs).mapM addressPart? with
  | none => false
  | some numbers =>
    numbers.length ≤ 4 && numbers.dropLast.all (· ≤ 255) &&
      numbers.getLast?.any (· < Nat.pow 256 (5 - numbers.length))

/-- A name whose last part is a number must be an address. -/
def endsInNumber (cs : List Char) : Bool :=
  match (dotted cs).getLast? with
  | none => false
  | some part => (!part.isEmpty && part.all Char.isDigit) || (addressPart? part).isSome

/-- The two sides of the first double colon. -/
def cutDoubleColon? : List Char → Option (List Char × List Char)
  | ':' :: ':' :: rest => some ([], rest)
  | c :: rest => (cutDoubleColon? rest).map fun (before, after) => (c :: before, after)
  | [] => none

def isHexGroup (cs : List Char) : Bool :=
  !cs.isEmpty && cs.length ≤ 4 && cs.all fun c => (Percent.hexValue? c).isSome

/-- A number up to 255 without leading zeros. -/
def isByte (cs : List Char) : Bool :=
  cs.all Char.isDigit && (numeral? 10 cs).any (· ≤ 255) && !cs.isEmpty &&
    (cs.head? ≠ some '0' || cs.length = 1)

def isQuad (cs : List Char) : Bool :=
  let parts := Text.split '.' cs
  parts.length = 4 && parts.all isByte

/-- How many groups of an address a text stands for. Only the last group may be four bytes, which
count as two. -/
def groupCount? (quadAllowed : Bool) (cs : List Char) : Option Nat :=
  if cs.isEmpty then some 0
  else
    let groups := Text.split ':' cs
    match groups.getLast? with
    | none => none
    | some last =>
      if ¬ groups.dropLast.all isHexGroup then none
      else if isHexGroup last then some groups.length
      else if quadAllowed && isQuad last then some (groups.length + 1)
      else none

def isIpv6 (cs : List Char) : Bool :=
  match cutDoubleColon? cs with
  | none => groupCount? true cs = some 8
  | some (before, after) =>
    match groupCount? false before, groupCount? true after with
    | some m, some n => m + n ≤ 7
    | _, _ => false

/-- The text between brackets that enclose the whole host. -/
def bracketed? : List Char → Option (List Char)
  | '[' :: rest => if rest.getLast? = some ']' then some rest.dropLast else none
  | _ => none

/-- Characters that a domain name drops: joiners, marks of direction and variation selectors. -/
def isDropped (c : Char) : Bool :=
  let n := c.toNat
  n = 0xAD || n = 0x34F || (0x180B ≤ n && n ≤ 0x180F) || n = 0x200B || n = 0x2060 || n = 0x2064 ||
    (0xFE00 ≤ n && n ≤ 0xFE0F) || n = 0xFEFF

/-- Lower case; wide forms are narrowed and ideographic full stops are dots. -/
def foldDomainChar (c : Char) : Char :=
  let n := c.toNat
  if 0xFF01 ≤ n ∧ n ≤ 0xFF5E then Text.lowercaseLetter (Char.ofNat (n - 0xFEE0))
  else if n = 0x3002 ∨ n = 0xFF61 then '.'
  else Text.lowercaseLetter c

def foldDomain (cs : List Char) : List Char :=
  (cs.filter fun c => !isDropped c).map foldDomainChar

def isControl (c : Char) : Bool :=
  c.toNat < 32 || (127 ≤ c.toNat && c.toNat < 160)

/-- Characters that no domain name holds. -/
def isForbidden (c : Char) : Bool :=
  isControl c || Text.isBlank c || c.toNat = 0xFFFD || c ∈ "%#/:<>?@[\\]^|".toList

/-- Whether a label in ASCII form stands for a label that needs this form and is folded already. -/
def isAsciiForm (cs : List Char) : Bool :=
  match Punycode.decode? cs with
  | none => false
  | some label =>
    label.any (128 ≤ ·.toNat) &&
      label.all fun c => !isDropped c && !isForbidden c && foldDomainChar c = c

def isLabel (cs : List Char) : Bool :=
  match cs with
  | 'x' :: 'n' :: '-' :: '-' :: form => isAsciiForm form
  | _ => true

/-- A domain name or address. A name may be percent-encoded. -/
def isDomain (cs : List Char) : Bool :=
  if cs.head? = some '[' then (bracketed? cs).any isIpv6
  else
    match Percent.text? cs with
    | none => false
    | some name =>
      let name := foldDomain name.toList
      !name.isEmpty && !name.any isForbidden && (Text.split '.' name).all isLabel &&
        (!endsInNumber name || isIpv4 name)

/-- A host that is kept as it is written. -/
def isPlain (cs : List Char) : Bool :=
  if cs.head? = some '[' then (bracketed? cs).any isIpv6
  else cs.all fun c => c.toNat ≠ 0 && c ∉ "\t\n\r #/:<>?@[\\]^|".toList

end AccessGrants.Url
