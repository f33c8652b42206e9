import AccessGrants.Text.Split

/-!
# AccessGrants.Http.MediaType

Media types: `type/subtype`, a suffix after the last plus sign of the subtype, and parameters after
semicolons.

* `MediaType.isJson` — whether a text is a media type of JSON documents.
-/

namespace AccessGrants.MediaType

/-- The characters of a token. -/
def isToken (c : Char) : Bool :=
  c.isAlphanum || c ∈ "!#$%&'*+-.^_\x60|~".toList

/-- Characters between quotes; a quote stands after a backslash only. -/
def isQuotable (c : Char) : Bool :=
  31 < c.toNat && c.toNat ≠ 127

/-- Where a reader of parameters stands. -/
inductive Place where
  /-- Before a name, after a semicolon. -/
  | gap
  /-- In a name. -/
  | name
  /-- Before a value. -/
  | start
  /-- In a value without quotes. -/
  | value
  /-- After an opening quote. -/
  | opened
  /-- Between quotes. -/
  | quoted
  /-- After a backslash between quotes. -/
  | escaped
  /-- After a closing quote. -/
  | closed
  deriving DecidableEq, Repr

/-- The place after a character; none when it may not stand there. -/
def Place.next? (p : Place) (c : Char) : Option Place :=
  match p with
  | gap => if c = ' ' then some gap else if isToken c then some name else none
  | name => if c = '=' then some start else if isToken c then some name else none
  | start => if c = '"' then some opened else if isToken c then some value else none
  | value => if c = ';' then some gap else if isToken c then some value else none
  | opened =>
    if c = '\\' then some escaped else if isQuotable c then some quoted else none
  | quoted =>
    if c = '"' then some closed
    else if c = '\\' then some escaped
    else if isQuotable c then some quoted
    else none
  | escaped => if isQuotable c then some quoted else none
  | closed => if c = ';' then some gap else if c = ' ' then some closed else none

/-- The places where a list of parameters may end. -/
def Place.final : Place → Bool
  | gap | start | value | closed => true
  | name | opened | quoted | escaped => false

/-- The text after the first semicolon. -/
def areParameters (cs : List Char) : Bool :=
  (cs.foldlM Place.next? Place.gap).any Place.final

/-- The subtype and its suffix. -/
def cutSuffix (subtype : List Char) : List Char × Option (List Char) :=
  match Text.cut? '+' subtype.reverse with
  | some (suffix, rest) =>
    if rest.isEmpty then (subtype, none) else (rest.reverse, some suffix.reverse)
  | none => (subtype, none)

/-- An application type whose subtype or suffix is JSON, in any case. -/
def isJson (text : String) : Bool :=
  let cs := text.toList.map Char.toLower
  match Text.cut? '/' cs with
  | none => false
  | some (main, rest) =>
    let (subtype, parameters) :=
      match Text.cut? ';' rest with
      | some (subtype, parameters) => (subtype, some parameters)
      | none => (rest, none)
    let (base, suffix) := cutSuffix subtype
    main = "application".toList && !subtype.isEmpty && subtype.all isToken &&
      parameters.all areParameters && (base = "json".toList || suffix = some "json".toList)

end AccessGrants.MediaType
