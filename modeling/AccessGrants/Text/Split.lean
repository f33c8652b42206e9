/-!
# AccessGrants.Text.Split

Cutting a text at every occurrence of a separator. A text with `n` separators has `n + 1` parts,
some of which may be empty.

* `split` — the parts.
* `cut?`  — the two sides of the first separator.
-/

namespace AccessGrants.Text

def split (separator : Char) : List Char → List (List Char)
  | [] => [[]]
  | c :: cs =>
    if c = separator then [] :: split separator cs
    else
      match split separator cs with
      | [] => [[c]]
      | part :: parts => (c :: part) :: parts

/-- The text before the first separator and the text after it. -/
def cut? (separator : Char) : List Char → Option (List Char × List Char)
  | [] => none
  | c :: cs =>
    if c = separator then some ([], cs)
    else (cut? separator cs).map fun (before, after) => (c :: before, after)

end AccessGrants.Text
