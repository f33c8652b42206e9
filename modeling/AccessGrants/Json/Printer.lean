import AccessGrants.Json.Basic
import AccessGrants.Binary64.Shortest

/-!
# AccessGrants.Json.Printer

The compact text of a JSON value. Quotes, backslashes and control characters are escaped; every
other character stands for itself.

* `Json.escaped` — the inside of a quoted text.
* `Json.render`  — the text of a value.
-/

namespace AccessGrants

namespace Json

def hexDigit (n : Nat) : Char :=
  if n < 10 then Char.ofNat ('0'.toNat + n) else Char.ofNat ('a'.toNat + (n - 10))

/-- The written form of one character inside quotes. -/
def escapedChar (c : Char) : List Char :=
  if c = '"' then ['\\', '"']
  else if c = '\\' then ['\\', '\\']
  else if c = '\n' then ['\\', 'n']
  else if c = '\r' then ['\\', 'r']
  else if c = '\t' then ['\\', 't']
  else if c.toNat = 8 then ['\\', 'b']
  else if c.toNat = 12 then ['\\', 'f']
  else if c.toNat < 32 then
    ['\\', 'u', '0', '0', hexDigit (c.toNat / 16), hexDigit (c.toNat % 16)]
  else [c]

def escaped (s : String) : List Char :=
  s.toList.flatMap escapedChar

def quoted (s : String) : String :=
  "\"" ++ String.ofList (escaped s) ++ "\""

mutual

def render : Json → String
  | null => "null"
  | bool b => if b then "true" else "false"
  | int n => toString n
  | float x => x.render
  | string s => quoted s
  | array items => "[" ++ renderItems items ++ "]"
  | object fields => "\x7b" ++ renderFields fields ++ "\x7d"

def renderItems : List Json → String
  | [] => ""
  | [a] => render a
  | a :: b :: as => render a ++ "," ++ renderItems (b :: as)

def renderFields : List (String × Json) → String
  | [] => ""
  | [(k, a)] => quoted k ++ ":" ++ render a
  | (k, a) :: b :: as => quoted k ++ ":" ++ render a ++ "," ++ renderFields (b :: as)

end

end Json

end AccessGrants
