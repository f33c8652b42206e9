import AccessGrants.Json.Basic

/-!
# AccessGrants.Mongo.Command

The commands of a document database that keep the records, and its replies.

* `Collection`   — where the records of a kind are kept.
* `Filter`       — fields that a document must have. A missing field counts as null.
* `MongoCommand` — the commands. Each one is atomic.
* `MongoReply`   — the replies.
-/

namespace AccessGrants

inductive Collection where
  | targetGroups
  | deployments
  | preflights
  | requests
  | targets
  | argOptions
  deriving DecidableEq, Repr, Inhabited

namespace Collection

def name : Collection → String
  | targetGroups => "target_groups"
  | deployments => "deployments"
  | preflights => "preflights"
  | requests => "requests"
  | targets => "cached_targets"
  | argOptions => "arg_options"

end Collection

/-- Names of fields with the value that they must have. A name may be a path with dots. -/
abbrev Filter := List (String × Json)

/-- Fields in their order; 1 goes up and -1 goes down. -/
abbrev Sorting := List (String × Int)

/-- Which of the found documents are sent. -/
structure Window where
  sort : Sorting
  skip : Nat
  limit : Int
  deriving DecidableEq, Repr, Inhabited

/-- Fields to be written, and fields to be written only into a new document. -/
structure FieldUpdate where
  set : List (String × Json)
  setOnInsert : List (String × Json)
  deriving DecidableEq, Inhabited

/-- An index. One with a path in `onlyWith` holds the documents that have a value there. -/
structure Index where
  name : String
  key : Sorting
  unique : Bool
  onlyWith : Option String
  deriving DecidableEq, Repr, Inhabited

/-- `findAndModify` changes one document and answers what it is then. With `upsert` it makes a
document of the filter and the update when it finds none; without a choice it does not. `replace`
writes a whole document, new or not. -/
inductive MongoCommand where
  | ping
  | find (collection : Collection) (filter : Filter) (window : Option Window)
  | insert (collection : Collection) (document : Json)
  | replace (collection : Collection) (filter : Filter) (document : Json)
  | findAndModify (collection : Collection) (filter : Filter) (update : FieldUpdate)
      (upsert : Option Bool)
  | createIndexes (collection : Collection) (indexes : List Index)
  deriving DecidableEq, Inhabited

/-- `value` is what `findAndModify` answers. -/
inductive MongoReply where
  | acknowledged
  | documents (documents : List Json)
  | value (document : Option Json)
  | writeError (code : Int)
  | writeConcernError (code : Int)
  | commandError (code : Int)
  | closed
  deriving DecidableEq, Inhabited

namespace Sorting

def toJson (s : Sorting) : Json :=
  .array (s.map fun (field, direction) => .array [.string field, .int direction])

end Sorting

namespace Window

/-- A negative limit asks for one batch of documents. -/
def fields (w : Window) : List (String × Json) :=
  [("sort", w.sort.toJson), ("skip", .int w.skip), ("limit", .int w.limit.natAbs)] ++
    if w.limit < 0 then [("singleBatch", .bool true)] else []

end Window

namespace FieldUpdate

def toJson (u : FieldUpdate) : Json :=
  Json.ofFields ([("$set", Json.ofFields u.set)] ++
    if u.setOnInsert.isEmpty then [] else [("$setOnInsert", Json.ofFields u.setOnInsert)])

end FieldUpdate

namespace Index

def toJson (i : Index) : Json :=
  Json.ofFields ([("key", i.key.toJson), ("name", .string i.name)] ++
    (if i.unique then [("unique", .bool true)] else []) ++
    match i.onlyWith with
    | none => []
    | some path =>
      [("partialFilterExpression",
        Json.ofFields [(path, Json.ofFields [("$exists", .bool true)])])])

end Index

namespace MongoCommand

/-- The name of a command, what it is sent to, and its own fields. -/
def parts : MongoCommand → String × Json × List (String × Json)
  | ping => ("ping", .int 1, [])
  | find collection filter window =>
    ("find", .string collection.name,
      [("filter", Json.ofFields filter)] ++ (window.map Window.fields).getD [])
  | insert collection document =>
    ("insert", .string collection.name, [("documents", .array [document])])
  | replace collection filter document =>
    ("update", .string collection.name,
      [("updates", .array [Json.ofFields
        [("q", Json.ofFields filter), ("u", document), ("upsert", .bool true)]])])
  | findAndModify collection filter update upsert =>
    ("findAndModify", .string collection.name,
      [("query", Json.ofFields filter), ("update", update.toJson), ("new", .bool true)] ++
        (upsert.map fun u => ("upsert", Json.bool u)).toList)
  | createIndexes collection indexes =>
    ("createIndexes", .string collection.name, [("indexes", .array (indexes.map Index.toJson))])

/-- The database that a command is for. -/
def database (named : String) : MongoCommand → String
  | ping => "admin"
  | find .. | insert .. | replace .. | findAndModify .. | createIndexes .. => named

/-- The document of a command for a named database. -/
def toJson (named : String) (c : MongoCommand) : Json :=
  let (name, on, fields) := c.parts
  Json.ofFields
    ([("command", .string name), ("on", on), ("$db", .string (c.database named))] ++ fields)

end MongoCommand

end AccessGrants
