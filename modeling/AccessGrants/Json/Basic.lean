import AccessGrants.Binary64.Basic

/-!
# AccessGrants.Json.Basic

JSON values. Whole numbers and floats are different values, and the fields of an object stand in
key order, each key once, so two objects with the same fields are the same value.

* `Json`            — the values.
* `Json.ofFields`   — an object from fields in any order; the last of equal keys wins.
* `Json.Equivalent` — equality up to the sign of a zero float.
-/

namespace AccessGrants

inductive Json where
  | null
  | bool (b : Bool)
  | int (n : Int)
  | float (x : Binary64)
  | string (s : String)
  | array (items : List Json)
  | object (fields : List (String × Json))
  deriving Inhabited, Repr

namespace Json

mutual

def beq : Json → Json → Bool
  | null, null => true
  | bool a, bool b => a == b
  | int a, int b => a == b
  | float a, float b => decide (a = b)
  | string a, string b => a == b
  | array a, array b => beqItems a b
  | object a, object b => beqFields a b
  | _, _ => false

def beqItems : List Json → List Json → Bool
  | [], [] => true
  | a :: as, b :: bs => beq a b && beqItems as bs
  | _, _ => false

def beqFields : List (String × Json) → List (String × Json) → Bool
  | [], [] => true
  | (k, a) :: as, (l, b) :: bs => k == l && (beq a b && beqFields as bs)
  | _, _ => false

end

mutual

theorem eq_of_beq : ∀ {a b : Json}, beq a b = true → a = b
  | null, b, h => by cases b <;> simp_all [beq]
  | bool _, b, h => by cases b <;> simp_all [beq]
  | int _, b, h => by cases b <;> simp_all [beq]
  | float _, b, h => by cases b <;> simp_all [beq]
  | string _, b, h => by cases b <;> simp_all [beq]
  | array as, b, h => by
    cases b <;> simp only [beq, Bool.false_eq_true] at h
    exact congrArg array (eq_of_beqItems h)
  | object as, b, h => by
    cases b <;> simp only [beq, Bool.false_eq_true] at h
    exact congrArg object (eq_of_beqFields h)

theorem eq_of_beqItems : ∀ {as bs : List Json}, beqItems as bs = true → as = bs
  | [], bs, h => by cases bs <;> simp_all [beqItems]
  | a :: as, bs, h => by
    cases bs with
    | nil => simp [beqItems] at h
    | cons b bs =>
      simp only [beqItems, Bool.and_eq_true] at h
      rw [eq_of_beq h.1, eq_of_beqItems h.2]

theorem eq_of_beqFields : ∀ {as bs : List (String × Json)}, beqFields as bs = true → as = bs
  | [], bs, h => by cases bs <;> simp_all [beqFields]
  | (k, a) :: as, bs, h => by
    cases bs with
    | nil => simp [beqFields] at h
    | cons b bs =>
      obtain ⟨l, b⟩ := b
      simp only [beqFields, Bool.and_eq_true, beq_iff_eq] at h
      rw [h.1, eq_of_beq h.2.1, eq_of_beqFields h.2.2]

end

mutual

theorem beq_self : ∀ a : Json, beq a a = true
  | null => by simp [beq]
  | bool _ => by simp [beq]
  | int _ => by simp [beq]
  | float _ => by simp [beq]
  | string _ => by simp [beq]
  | array as => by simpa [beq] using beqItems_self as
  | object as => by simpa [beq] using beqFields_self as

theorem beqItems_self : ∀ as : List Json, beqItems as as = true
  | [] => by simp [beqItems]
  | a :: as => by simp [beqItems, beq_self a, beqItems_self as]

theorem beqFields_self : ∀ as : List (String × Json), beqFields as as = true
  | [] => by simp [beqFields]
  | (_, a) :: as => by simp [beqFields, beq_self a, beqFields_self as]

end

instance : DecidableEq Json := fun a b =>
  if h : beq a b = true then isTrue (eq_of_beq h)
  else isFalse fun e => h (e ▸ beq_self a)

/-- Puts a field in key order; an equal key is replaced. -/
def insertField (key : String) (value : Json) : List (String × Json) → List (String × Json)
  | [] => [(key, value)]
  | (k, v) :: rest =>
    if key < k then (key, value) :: (k, v) :: rest
    else if key = k then (key, value) :: rest
    else (k, v) :: insertField key value rest

/-- The object with these fields; of equal keys the last wins. -/
def ofFields (fields : List (String × Json)) : Json :=
  object (fields.foldl (fun acc f => insertField f.1 f.2 acc) [])

/-- The value of a field of an object. -/
def field? (value : Json) (key : String) : Option Json :=
  match value with
  | object fields => fields.lookup key
  | _ => none

def ofStrings (texts : List String) : Json :=
  array (texts.map string)

/-- An absent value is written as null. -/
def ofOption (write : α → Json) : Option α → Json
  | none => null
  | some a => write a

mutual

/-- The value with every negative zero replaced by the positive one. -/
def unsignedZeros : Json → Json
  | float x => float x.unsignedZero
  | array items => array (unsignedZerosItems items)
  | object fields => object (unsignedZerosFields fields)
  | null => null
  | bool b => bool b
  | int n => int n
  | string s => string s

def unsignedZerosItems : List Json → List Json
  | [] => []
  | a :: as => unsignedZeros a :: unsignedZerosItems as

def unsignedZerosFields : List (String × Json) → List (String × Json)
  | [] => []
  | (k, a) :: as => (k, unsignedZeros a) :: unsignedZerosFields as

end

/-- Two values are equivalent when they differ at most in the sign of a zero float. -/
def Equivalent (a b : Json) : Prop :=
  a.unsignedZeros = b.unsignedZeros

instance (a b : Json) : Decidable (Equivalent a b) :=
  inferInstanceAs (Decidable (a.unsignedZeros = b.unsignedZeros))

end Json

end AccessGrants
