import AccessGrants.Text.Integer
import AccessGrants.Text.Split
import AccessGrants.Word

/-!
# AccessGrants.Text.KeyPath

Keys that lead into tables and lists: names with points between them, each with positions in brackets
behind it, as in `a.b[0].c`.

* `KeyPath.pointed` — a key in which two low lines stand for a point.
* `KeyPath.steps?`  — the steps of a key; none when it is not written so.
-/

namespace AccessGrants.KeyPath

/-- A name, and whether positions stand behind it. -/
structure Step where
  name : String
  indexed : Bool
  deriving DecidableEq, Repr

def pointed : List Char → List Char
  | '_' :: '_' :: cs => '.' :: pointed cs
  | c :: cs => c :: pointed cs
  | [] => []

/-- Letters and digits of ASCII, the low line, the hyphen and the space. -/
def isNameChar (c : Char) : Bool :=
  c.isAlphanum || c = '_' || c = '-' || c = ' '

def isGap (c : Char) : Bool :=
  c = ' ' || c = '\t'

/-- Whether a signed word stands before a closing bracket, with gaps around it. Which lists have
such a position is not told. -/
def isPosition (cs : List Char) : Bool :=
  match Text.cut? ']' cs with
  | some (inner, []) =>
    let digits := ((inner.dropWhile isGap).reverse.dropWhile isGap).reverse
    digits.head? ≠ some '+' &&
      (Text.parseSigned Word.leastSigned Word.greatestSigned (String.ofList digits)).isOk
  | _ => false

def step? (cs : List Char) : Option Step :=
  match Text.split '[' cs with
  | [] => none
  | name :: positions =>
    if ¬ name.isEmpty ∧ name.all isNameChar ∧ positions.all isPosition then
      some ⟨String.ofList name, ¬ positions.isEmpty⟩
    else none

def steps? (key : List Char) : Option (List Step) :=
  (Text.split '.' key).mapM step?

end AccessGrants.KeyPath
