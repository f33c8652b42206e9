import AccessGrants.Json.Basic

/-!
# AccessGrants.Json.Draft

What a reader meets in a JSON text, in document order, up to the place where the text stops being
JSON. A typed reader walks a draft and reports the first fault it meets, whichever kind that is;
the parts that it skips are only required to be well formed.

* `Draft`         — values with fields in written order, repeated keys included.
* `Fault`         — malformed text, or text that does not fit the wanted type.
* `Draft.limited` — leaves out what is nested too deep.
* `Draft.toJson`  — the value of a draft; the last of equal keys wins.
* `Draft.ofJson`  — the draft of a value, which is never malformed.
-/

namespace AccessGrants

/-- Why a typed reader gives up. -/
inductive Fault where
  | malformed
  | mismatch
  deriving DecidableEq, Repr

/-- `broken` is where the text stops being JSON. `unreadable` is well formed but has no value: a
number that is too large, half a surrogate pair, or a part that is nested too deep. A list or object
that is not closed is followed by malformed text. -/
inductive Draft where
  | null
  | bool (b : Bool)
  | int (n : Int)
  | float (x : Binary64)
  | string (s : String)
  | array (items : List Draft) (closed : Bool)
  | object (fields : List (String × Draft)) (closed : Bool)
  | unreadable
  | broken
  deriving Inhabited, Repr

namespace Draft

mutual

/-- Whether a part that nobody reads is well formed. -/
def skippable : Draft → Bool
  | broken => false
  | array items closed => skippableItems items && closed
  | object fields closed => skippableFields fields && closed
  | null | bool _ | int _ | float _ | string _ | unreadable => true

def skippableItems : List Draft → Bool
  | [] => true
  | a :: as => skippable a && skippableItems as

def skippableFields : List (String × Draft) → Bool
  | [] => true
  | (_, a) :: as => skippable a && skippableFields as

end

/-- A part that is too deep to be read. -/
def tooDeep (d : Draft) : Draft :=
  if d.skippable then unreadable else broken

mutual

/-- The draft with everything below `depth` nested lists and objects too deep to be read. -/
def limited (depth : Nat) : Draft → Draft
  | array items closed =>
    match depth with
    | 0 => tooDeep (array items closed)
    | d + 1 => array (limitedItems d items) closed
  | object fields closed =>
    match depth with
    | 0 => tooDeep (object fields closed)
    | d + 1 => object (limitedFields d fields) closed
  | null => null
  | bool b => bool b
  | int n => int n
  | float x => float x
  | string s => string s
  | unreadable => unreadable
  | broken => broken

def limitedItems (depth : Nat) : List Draft → List Draft
  | [] => []
  | a :: as => limited depth a :: limitedItems depth as

def limitedFields (depth : Nat) : List (String × Draft) → List (String × Draft)
  | [] => []
  | (k, a) :: as => (k, limited depth a) :: limitedFields depth as

end

mutual

def toJson : Draft → Except Fault Json
  | null => .ok .null
  | bool b => .ok (.bool b)
  | int n => .ok (.int n)
  | float x => .ok (.float x)
  | string s => .ok (.string s)
  | unreadable => .error .malformed
  | broken => .error .malformed
  | array items closed => do
    let values ← toJsonItems items
    if closed then .ok (.array values) else .error .malformed
  | object fields closed => do
    let values ← toJsonFields fields
    if closed then .ok (Json.ofFields values) else .error .malformed

def toJsonItems : List Draft → Except Fault (List Json)
  | [] => .ok []
  | a :: as => do
    let value ← toJson a
    return value :: (← toJsonItems as)

def toJsonFields : List (String × Draft) → Except Fault (List (String × Json))
  | [] => .ok []
  | (k, a) :: as => do
    let value ← toJson a
    return (k, value) :: (← toJsonFields as)

end

mutual

def ofJson : Json → Draft
  | .null => null
  | .bool b => bool b
  | .int n => int n
  | .float x => float x
  | .string s => string s
  | .array items => array (ofJsonItems items) true
  | .object fields => object (ofJsonFields fields) true

def ofJsonItems : List Json → List Draft
  | [] => []
  | a :: as => ofJson a :: ofJsonItems as

def ofJsonFields : List (String × Json) → List (String × Draft)
  | [] => []
  | (k, a) :: as => (k, ofJson a) :: ofJsonFields as

end

end Draft

end AccessGrants
