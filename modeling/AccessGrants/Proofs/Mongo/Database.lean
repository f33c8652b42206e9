import AccessGrants.Mongo.Plan
import Mathlib.Logic.Function.Basic

/-!
# AccessGrants.Proofs.Mongo.Database

What a document database does with the commands of the store, as databases of this kind document it.
Every command is one step, and a command that fails changes nothing.

* `Filter.admits`      — equality filters; null also admits a missing field.
* `Index.entryOf`       — what an index keeps of a document.
* `Server`             — what the database is free to choose, command by command.
* `Database.exec`      — the reply to a command and the contents after it.
* `MongoStore.perform` — a call of the store over such a database.
-/

namespace AccessGrants

namespace Json

/-- The value that a path of names leads to. -/
def at? : List String → Json → Option Json
  | [], value => some value
  | name :: path, value => (value.field? name).bind (at? path)

/-- The value at a path with dots. -/
def path? (doc : Json) (path : String) : Option Json :=
  doc.at? ((path.toList.splitOn '.').map String.ofList)

/-- Writes fields of an object, one after the other. -/
def setFields (doc : Json) (fields : List (String × Json)) : Json :=
  match doc with
  | object all => object (fields.foldl (fun acc f => insertField f.1 f.2 acc) all)
  | other => other

end Json

/-- Whether a document has the values of a filter. A missing field counts as null. No field that the
store filters by holds a list, so a value is never looked for among the items of one. -/
def Filter.admits (filter : Filter) (doc : Json) : Bool :=
  filter.all fun f => (doc.path? f.1).getD .null = f.2

namespace Index

/-- What an index keeps of a document: the values of its fields, missing ones as null. A partial
index keeps nothing of a document that it does not hold. -/
def entryOf (index : Index) (doc : Json) : Option (List Json) :=
  if index.onlyWith.all fun path => (doc.path? path).isSome then
    some (index.key.map fun field => (doc.path? field.1).getD .null)
  else none

/-- Whether a unique index has the entry of a document for another one. -/
def refuses (index : Index) (doc : Json) (others : List Json) : Bool :=
  index.unique && (index.entryOf doc).isSome &&
    others.any fun other => index.entryOf other = index.entryOf doc

end Index

/-- The documents of a collection, in no order that means anything, and its indexes. -/
structure Contents where
  documents : List Json
  indexes : List Index

namespace Contents

/-- A document beside others, unless an index refuses it. -/
def write (k : Contents) (doc : Json) (others : List Json) : Option Contents :=
  if k.indexes.any fun index => index.refuses doc others then none
  else some { k with documents := doc :: others }

/-- More indexes, unless they refuse a document that is there. -/
def index (k : Contents) (indexes : List Index) : Option Contents :=
  if indexes.any fun index => k.documents.any fun doc => index.refuses doc (k.documents.erase doc)
  then none
  else some { k with indexes := k.indexes ++ indexes }

end Contents

/-- What the database is free to choose when it carries out a command: the order in which it meets
the documents, and the identity of a new document. What a window shows is left open. -/
structure Server where
  order : List Json → List Json
  perm : ∀ documents, (order documents).Perm documents
  window : Window → List Json → List Json
  identity : Json

abbrev Database := Collection → Contents

namespace Database

def empty : Database := fun _ => ⟨[], []⟩

/-- The contents after a write; a refused one is answered with this reply. -/
def commit (db : Database) (collection : Collection) (reply refused : MongoReply) :
    Option Contents → MongoReply × Database
  | some k => (reply, Function.update db collection k)
  | none => (refused, db)

/-- A document that is not there yet gets an identity. -/
def identified (server : Server) (doc : Json) : Json :=
  doc.setFields [("_id", server.identity)]

/-- A replacement keeps the identity of the document that it replaces. -/
def replaced (old doc : Json) : Json :=
  doc.setFields [("_id", (old.field? "_id").getD .null)]

/-- The first document that a filter admits. -/
def first (server : Server) (db : Database) (collection : Collection) (filter : Filter) :
    Option Json :=
  (server.order (db collection).documents).find? filter.admits

/-- The reply to a command and the contents after it. An upsert makes a new document of the values
of the filter and of the update. The store upserts and writes by plain names only, so no path is
taken apart there. -/
def exec (server : Server) (db : Database) : MongoCommand → MongoReply × Database
  | .ping => (.acknowledged, db)
  | .find collection filter none =>
    (.documents ((server.order (db collection).documents).filter filter.admits), db)
  | .find collection filter (some window) =>
    (.documents (server.window window ((db collection).documents.filter filter.admits)), db)
  | .insert collection doc =>
    db.commit collection .acknowledged (.writeError MongoStore.duplicateKey)
      ((db collection).write (identified server doc) (db collection).documents)
  | .replace collection filter doc =>
    db.commit collection .acknowledged (.writeError MongoStore.duplicateKey)
      (match db.first server collection filter with
      | some old => (db collection).write (replaced old doc) ((db collection).documents.erase old)
      | none => (db collection).write (identified server doc) (db collection).documents)
  | .findAndModify collection filter update upsert =>
    match db.first server collection filter with
    | some old =>
      let doc := old.setFields update.set
      db.commit collection (.value (some doc)) (.commandError MongoStore.duplicateKey)
        ((db collection).write doc ((db collection).documents.erase old))
    | none =>
      if upsert = some true then
        let doc := identified server
          ((Json.object []).setFields (filter ++ update.set ++ update.setOnInsert))
        db.commit collection (.value (some doc)) (.commandError MongoStore.duplicateKey)
          ((db collection).write doc (db collection).documents)
      else (.value none, db)
  | .createIndexes collection indexes =>
    db.commit collection .acknowledged (.commandError MongoStore.duplicateKey)
      ((db collection).index indexes)

section Outcomes

variable {server : Server} {db : Database} {collection : Collection} {filter : Filter}
  {update : FieldUpdate} {upsert : Option Bool} {old doc : Json} {others : List Json}
  {reply refused : MongoReply}

/-- The contents of a collection with other documents. -/
def withDocuments (db : Database) (collection : Collection) (documents : List Json) : Database :=
  Function.update db collection { db collection with documents := documents }

theorem commit_of_accepted
    (h : ((db collection).indexes.any fun index => index.refuses doc others) = false) :
    db.commit collection reply refused ((db collection).write doc others) =
      (reply, db.withDocuments collection (doc :: others)) := by
  rw [Contents.write, if_neg (by simp [h]), commit, withDocuments]

theorem commit_of_refused
    (h : ((db collection).indexes.any fun index => index.refuses doc others) = true) :
    db.commit collection reply refused ((db collection).write doc others) = (refused, db) := by
  rw [Contents.write, if_pos h, commit]

theorem exec_found (h : db.first server collection filter = some old) :
    db.exec server (.findAndModify collection filter update upsert) =
      db.commit collection (.value (some (old.setFields update.set)))
        (.commandError MongoStore.duplicateKey)
        ((db collection).write (old.setFields update.set)
          ((db collection).documents.erase old)) := by
  rw [exec, h]

theorem exec_missing (h : db.first server collection filter = none) (hu : upsert ≠ some true) :
    db.exec server (.findAndModify collection filter update upsert) = (.value none, db) := by
  rw [exec, h]
  exact if_neg hu

theorem exec_created (h : db.first server collection filter = none)
    (hd : identified server
      ((Json.object []).setFields (filter ++ update.set ++ update.setOnInsert)) = doc) :
    db.exec server (.findAndModify collection filter update (some true)) =
      db.commit collection (.value (some doc)) (.commandError MongoStore.duplicateKey)
        ((db collection).write doc (db collection).documents) := by
  subst hd
  rw [exec, h]
  exact if_pos rfl

theorem exec_replaced (h : db.first server collection filter = some old) :
    db.exec server (.replace collection filter doc) =
      db.commit collection .acknowledged (.writeError MongoStore.duplicateKey)
        ((db collection).write (replaced old doc) ((db collection).documents.erase old)) := by
  rw [exec, h]

theorem exec_replaced_none (h : db.first server collection filter = none) :
    db.exec server (.replace collection filter doc) =
      db.commit collection .acknowledged (.writeError MongoStore.duplicateKey)
        ((db collection).write (identified server doc) (db collection).documents) := by
  rw [exec, h]

end Outcomes

end Database

namespace MongoStore

/-- A call of the store over a database. -/
def perform (store : MongoStore) (server : Server) (db : Database) (c : StoreCall) :
    c.Reply × Database :=
  match store.plan c with
  | .refuse e => (.error e, db)
  | .send command read => ((read (db.exec server command).1), (db.exec server command).2)

/-- The database after some calls. -/
def run (store : MongoStore) (db : Database) (calls : List (Server × StoreCall)) : Database :=
  calls.foldl (fun db call => (store.perform call.1 db call.2).2) db

/-- A database without documents in which the indexes were made. -/
def indexed (server : Server) : Database :=
  indexCommands.foldl (fun db command => (db.exec server command).2) Database.empty

end MongoStore

end AccessGrants
