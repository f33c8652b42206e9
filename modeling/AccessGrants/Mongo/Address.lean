import AccessGrants.Text.Integer
import AccessGrants.Text.Percent
import AccessGrants.Text.Split
import AccessGrants.Word

/-!
# AccessGrants.Mongo.Address

The address of a document database: a scheme, perhaps a user, one or more hosts, perhaps a
database, and options.

* `MongoAddress`        — what an address tells.
* `MongoAddress.parse?` — reads a text; none when a client refuses it without connecting.
-/

namespace AccessGrants

structure MongoAddress where
  discovered : Bool
  hosts : List (String × Option Nat)
  options : List (String × String)
  deriving DecidableEq, Repr, Inhabited

namespace MongoAddress

/-- Which values an option takes. -/
inductive OptionKind where
  | text
  | flag
  | number (least greatest : Nat)
  | word (words : List String)
  deriving DecidableEq, Repr

def greatestPort : Nat := 65535

def knownOptions : List (String × OptionKind) :=
  [("appname", .text), ("authsource", .text), ("authmechanismproperties", .text),
    ("authmechanism",
      .word ["SCRAM-SHA-1", "SCRAM-SHA-256", "MONGODB-X509", "PLAIN", "MONGODB-OIDC"]),
    ("compressors", .text), ("connecttimeoutms", .number 0 Word.greatest),
    ("directconnection", .flag), ("heartbeatfrequencyms", .number 500 Word.greatest),
    ("journal", .flag), ("loadbalanced", .flag), ("localthresholdms", .number 0 Word.greatest),
    ("maxconnecting", .number 1 Word.greatestHalf), ("maxidletimems", .number 0 Word.greatest),
    ("maxpoolsize", .number 1 Word.greatestHalf), ("minpoolsize", .number 0 Word.greatestHalf),
    ("maxstalenessseconds", .number 90 Word.greatest), ("readconcernlevel", .text),
    ("readpreference",
      .word ["primary", "secondary", "primaryPreferred", "secondaryPreferred", "nearest"]),
    ("readpreferencetags", .text), ("replicaset", .text), ("retryreads", .flag),
    ("retrywrites", .flag), ("serverselectiontimeoutms", .number 0 Word.greatest),
    ("sockettimeoutms", .number 0 Word.greatest), ("srvmaxhosts", .number 0 Word.greatestHalf),
    ("srvservicename", .text), ("ssl", .flag), ("tls", .flag), ("tlsinsecure", .flag),
    ("tlsallowinvalidcertificates", .flag), ("tlscafile", .text),
    ("tlscertificatekeyfile", .text), ("uuidrepresentation", .text), ("w", .text),
    ("waitqueuetimeoutms", .number 0 Word.greatest), ("wtimeoutms", .number 0 Word.greatest),
    ("zlibcompressionlevel", .number 0 9)]

/-- Whether an option may have a value. -/
def OptionKind.allows (kind : OptionKind) (value : String) : Bool :=
  match kind with
  | text => value ≠ ""
  | flag => value = "true" || value = "false"
  | number least greatest =>
    match Text.parseUnsigned greatest value with
    | .ok n => decide (least ≤ n)
    | .error _ => false
  | word words => words.contains value

def schemes : List (String × Bool) := [("mongodb", false), ("mongodb+srv", true)]

/-- The scheme and the text after `://`. -/
def cutScheme? : List Char → Option (List Char × List Char)
  | ':' :: '/' :: '/' :: rest => some ([], rest)
  | c :: rest => (cutScheme? rest).map fun (before, after) => (c :: before, after)
  | [] => none

/-- The text before the last `@`, and the text after it. -/
def cutUser (cs : List Char) : Option (List Char) × List Char :=
  match Text.cut? '@' cs.reverse with
  | none => (none, cs)
  | some (after, before) => (some before.reverse, after.reverse)

/-- Every percent sign starts an encoded byte. -/
def isEncoded : List Char → Bool
  | [] => true
  | '%' :: a :: b :: rest =>
    (Percent.hexValue? a).isSome && (Percent.hexValue? b).isSome && isEncoded rest
  | c :: rest => c ≠ '%' && isEncoded rest

/-- A user or password has its reserved characters encoded. -/
def isUserPart (cs : List Char) : Bool :=
  !(cs.any fun c => c ∈ ":/?#[]@".toList) && isEncoded cs && (Percent.text? cs).isSome

/-- A user, or a user and a password after the first colon. -/
def isUser (cs : List Char) : Bool :=
  match Text.cut? ':' cs with
  | none => !cs.isEmpty && isUserPart cs
  | some (user, password) => !user.isEmpty && isUserPart user && isUserPart password

/-- A host, perhaps with a port. -/
def host? (cs : List Char) : Option (String × Option Nat) :=
  match Text.split ':' cs with
  | [name] => if name.isEmpty then none else some (String.ofList name, none)
  | [name, port] =>
    match Text.parseUnsigned greatestPort (String.ofList port) with
    | .ok n => if name.isEmpty ∨ n = 0 then none else some (String.ofList name, some n)
    | .error _ => none
  | _ => none

def lowerCase (cs : List Char) : String :=
  String.ofList (cs.map Char.toLower)

/-- An option that is known, with a value that it takes. -/
def option? (cs : List Char) : Option (String × String) := do
  let (name, value) ← Text.cut? '=' cs
  let kind ← knownOptions.lookup (lowerCase name)
  let value ← Percent.text? value
  if kind.allows value then some (lowerCase name, value) else none

/-- Only the tags of a read preference may be given more than once. -/
def areOnce (options : List (String × String)) : Bool :=
  decide ((options.map (·.1)).filter (· ≠ "readpreferencetags")).Nodup

def isDatabase (cs : List Char) : Bool :=
  match Percent.text? cs with
  | none => false
  | some name => !(name.toList.any fun c => c ∈ "/\\ \"$.".toList)

def isSet (options : List (String × String)) (name : String) : Bool :=
  options.lookup name = some "true"

/-- A balanced service is one host that is no replica set; a direct connection has one host; hosts
are discovered from one name without a port. -/
def agrees (a : MongoAddress) : Bool :=
  let single := a.hosts.length = 1
  let balanced := isSet a.options "loadbalanced"
  let direct := isSet a.options "directconnection"
  (!balanced || (single && !direct && (a.options.lookup "replicaset").isNone)) &&
    (!direct || single) && (!a.discovered || (single && a.hosts.all fun h => h.2.isNone))

def parse? (text : String) : Option MongoAddress := do
  let (scheme, rest) ← cutScheme? text.toList
  let discovered ← schemes.lookup (String.ofList scheme)
  let (authority, tail) := (Text.cut? '/' rest).getD (rest, [])
  let (user, hosts) := cutUser authority
  let (database, options) := (Text.cut? '?' tail).getD (tail, [])
  let hosts ← (Text.split ',' hosts).mapM host?
  let options ← if options.isEmpty then some [] else (Text.split '&' options).mapM option?
  let address : MongoAddress := ⟨discovered, hosts, options⟩
  if user.all isUser && !authority.contains '?' && isDatabase database && areOnce options &&
      address.agrees then
    some address
  else none

end MongoAddress

end AccessGrants
