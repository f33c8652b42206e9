import AccessGrants.Url.Host

/-!
# AccessGrants.Url.Basic

Absolute URLs, read as browsers and HTTP clients read them: blanks around a URL and line breaks in
it are dropped, a web address may be written with backslashes or without slashes, and what may not
stand in a path or a query is percent-encoded.

* `Url`               — scheme, host, path and query. The fragment is not kept.
* `Url.parse?`        — reads a text; none when it is not an absolute URL.
* `Url.requestTarget` — the path and query that a client asks for.
-/

namespace AccessGrants

/-- The path starts with a slash where the URL has a host or the path is hierarchical. -/
structure Url where
  scheme : String
  host : Option String
  path : String
  query : Option String
  deriving DecidableEq, Repr, Inhabited

namespace Url

/-- How the rest of a URL is read depends on its scheme. -/
inductive Family where
  | web
  | file
  | other
  deriving DecidableEq, Repr

def Family.ofScheme (scheme : String) : Family :=
  if scheme ∈ ["http", "https", "ws", "wss", "ftp"] then .web
  else if scheme = "file" then .file
  else .other

/-- Separators of a path: in web and file addresses a backslash is a slash. -/
def Family.isSlash (f : Family) (c : Char) : Bool :=
  c = '/' || (f ≠ .other && c = '\\')

/-- Without the blanks and control characters at both ends, and without tabs and line breaks. -/
def cleaned (text : String) : List Char :=
  let outer (c : Char) : Bool := c.toNat ≤ 32
  let cs := ((text.toList.dropWhile outer).reverse.dropWhile outer).reverse
  cs.filter fun c => c ≠ '\t' && c ≠ '\n' && c ≠ '\r'

def isSchemeChar (c : Char) : Bool :=
  c.isAlphanum || c = '+' || c = '-' || c = '.'

/-- The scheme in lower case, and the text after its colon. -/
def scheme? (cs : List Char) : Option (String × List Char) :=
  match Text.cut? ':' cs with
  | none => none
  | some (name, rest) =>
    if name.head?.any Char.isAlpha && name.all isSchemeChar then
      some (String.ofList (name.map Char.toLower), rest)
    else none

/-- The text up to the first character of a class, and the text from there on. -/
def breakAt (stop : Char → Bool) (cs : List Char) : List Char × List Char :=
  (cs.takeWhile fun c => !stop c, cs.dropWhile fun c => !stop c)

/-- The user and the text after the last `@`. Without an `@` there is no user. -/
def cutUser (cs : List Char) : Option (List Char) × List Char :=
  match Text.cut? '@' cs.reverse with
  | none => (none, cs)
  | some (after, before) => (some before.reverse, after.reverse)

/-- The host and the text after the colon that ends it. A colon in brackets does not end it. -/
def cutPort : Bool → List Char → List Char × Option (List Char)
  | _, [] => ([], none)
  | inside, c :: rest =>
    if c = ':' ∧ ¬ inside then ([], some rest)
    else
      let (host, port) := cutPort ((inside || c = '[') && c ≠ ']') rest
      (c :: host, port)

/-- A port may be empty. -/
def isPort (cs : List Char) : Bool :=
  cs.all Char.isDigit && (numeral? 10 cs).any (· ≤ 65535)

/-- The host of an authority, which ends at `next`; none when the authority is invalid. -/
def authorityHost? (family : Family) (next : Option Char) (cs : List Char) : Option String :=
  let (user, rest) := cutUser cs
  let (host, port) := cutPort false rest
  let userFits :=
    match user with
    | none => true
    | some [] => !rest.isEmpty || next.isNone
    | some _ => !host.isEmpty
  let hostFits :=
    if family = .web then !host.isEmpty && isDomain host
    else isPlain host && (!host.isEmpty || port.isNone)
  if userFits && hostFits && port.all isPort then some (String.ofList host) else none

/-- Segments that stand for the directory itself. -/
def isDot (segment : List Char) : Bool :=
  let s := segment.map Char.toLower
  s = ['.'] || s = "%2e".toList

/-- Segments that stand for the directory above. -/
def isDoubleDot (segment : List Char) : Bool :=
  let s := segment.map Char.toLower
  s = "..".toList || s = ".%2e".toList || s = "%2e.".toList || s = "%2e%2e".toList

/-- Follows the dots in a path. A path that ends in dots ends in a slash. -/
def resolveDots (before : List (List Char)) : List (List Char) → List (List Char)
  | [] => before
  | [segment] =>
    if isDoubleDot segment then before.dropLast ++ [[]]
    else if isDot segment then before ++ [[]]
    else before ++ [segment]
  | segment :: rest =>
    if isDoubleDot segment then resolveDots before.dropLast rest
    else if isDot segment then resolveDots before rest
    else resolveDots (before ++ [segment]) rest

/-- Cuts a path at its separators. -/
def segments (family : Family) (cs : List Char) : List (List Char) :=
  Text.split '/' (cs.map fun c => if family.isSlash c then '/' else c)

def pathReserved : List Char := " \"#<>?\x60\x7b\x7d".toList

def queryReserved : List Char := " \"#<>".toList

/-- In the query of a web address an apostrophe is encoded too. -/
def reservedInQuery (family : Family) : List Char :=
  if family = .other then queryReserved else '\'' :: queryReserved

/-- The path below a root, whose first slash is left out of `cs`. -/
def rootedPath (family : Family) (cs : List Char) : String :=
  let parts := resolveDots [] (segments family cs)
  String.ofList (parts.flatMap fun p => '/' :: Percent.encode pathReserved p)

def withoutSlash (family : Family) : List Char → List Char
  | [] => []
  | c :: rest => if family.isSlash c then rest else c :: rest

/-- Cuts what follows the authority into path, query and fragment. -/
def cutTail (cs : List Char) : List Char × Option (List Char) :=
  let whole := (breakAt (· = '#') cs).1
  match Text.cut? '?' whole with
  | none => (whole, none)
  | some (path, query) => (path, some query)

def queryText (family : Family) (query : Option (List Char)) : Option String :=
  query.map fun q => String.ofList (Percent.encode (reservedInQuery family) q)

/-- A URL with an authority, from the authority on. -/
def withAuthority? (scheme : String) (family : Family) (cs : List Char) : Option Url := do
  let (authority, tail) := breakAt (fun c => family.isSlash c || c = '?' || c = '#') cs
  let host ← authorityHost? family tail.head? authority
  let (path, query) := cutTail tail
  let path :=
    if path.isEmpty ∧ family = .other then "" else rootedPath family (withoutSlash family path)
  return ⟨scheme, some host, path, queryText family query⟩

/-- A drive letter after a file address is part of its path. -/
def isDrive (cs : List Char) : Bool :=
  match cs with
  | [letter, mark] => letter.isAlpha && (mark = ':' || mark = '|')
  | _ => false

/-- A file address with a host. The host may be empty. -/
def fileWithHost? (cs : List Char) : Option Url := do
  let (host, tail) := breakAt (fun c => Family.file.isSlash c || c = '?' || c = '#') cs
  let tail := if isDrive host then cs else tail
  let host := if isDrive host then [] else host
  let (path, query) := cutTail tail
  if host.isEmpty || isDomain host then
    return ⟨"file", some (String.ofList host), rootedPath .file (withoutSlash .file path),
      queryText .file query⟩
  else none

/-- A URL without an authority. -/
def withoutAuthority (scheme : String) (family : Family) (cs : List Char) : Url :=
  let (path, query) := cutTail cs
  let rooted := family = .file || path.head? = some '/'
  let path :=
    if rooted then rootedPath family (withoutSlash family path)
    else String.ofList (Percent.encode [] path)
  ⟨scheme, none, path, queryText family query⟩

def parse? (text : String) : Option Url := do
  let (scheme, rest) ← scheme? (cleaned text)
  match Family.ofScheme scheme, rest with
  | .web, rest => withAuthority? scheme .web (rest.dropWhile Family.web.isSlash)
  | .file, a :: b :: rest =>
    if Family.file.isSlash a && Family.file.isSlash b then fileWithHost? rest
    else return withoutAuthority scheme .file (a :: b :: rest)
  | .file, rest => return withoutAuthority scheme .file rest
  | .other, '/' :: '/' :: rest => withAuthority? scheme .other rest
  | .other, rest => return withoutAuthority scheme .other rest

/-- The path, and the query after a question mark. -/
def requestTarget (u : Url) : String :=
  match u.query with
  | none => u.path
  | some query => u.path ++ "?" ++ query

end Url

end AccessGrants
