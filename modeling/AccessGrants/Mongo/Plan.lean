import AccessGrants.Document.Models
import AccessGrants.Mongo.Command
import AccessGrants.Store.Call
import AccessGrants.Store.Paging
import AccessGrants.Word

/-!
# AccessGrants.Mongo.Plan

A store over the document database. Every call of the store is at most one command, so a condition
that spans a read and a write is part of the filter of that command.

* `Plan α`          — a command and how its reply is read, or a refusal before anything is sent.
* `MongoStore.plan` — the plan of a call.
-/

namespace AccessGrants

inductive Plan (α : Type) where
  | refuse (error : StoreError)
  | send (command : MongoCommand) (read : MongoReply → Except StoreError α)

/-- A page size of 0 stands for the default. -/
structure MongoStore where
  database : String
  pageSize : Nat
  deriving DecidableEq, Repr, Inhabited

namespace MongoStore

def ofPageSize (database : String) (pageSize : Nat) : MongoStore :=
  ⟨database, if pageSize = 0 then defaultPageSize else pageSize⟩

def failed : StoreError := .backend "the database did not carry out a command"

def unreadable : StoreError := .backend "the database sent an unreadable document"

def unsendable : StoreError := .backend "an argument cannot be sent to the database"

mutual

/-- Whether the database can keep a value: its whole numbers are signed words. -/
def storable : Json → Bool
  | .int n => decide (n ≤ Word.greatestSigned)
  | .array items => storableItems items
  | .object fields => storableFields fields
  | .null | .bool _ | .float _ | .string _ => true

def storableItems : List Json → Bool
  | [] => true
  | a :: as => storable a && storableItems as

/-- The name of a field holds no NUL. -/
def storableFields : List (String × Json) → Bool
  | [] => true
  | (k, a) :: as => !k.toList.contains '\x00' && (storable a && storableFields as)

end

/-- The code of a write that a unique index refuses. -/
def duplicateKey : Int := 11000

def isDuplicate : MongoReply → Bool
  | .writeError code => code = duplicateKey
  | .commandError code => code = duplicateKey
  | _ => false

def readDocument (decode : Decoder α) (document : Json) : Except StoreError α :=
  match decode (Draft.ofJson document) with
  | .ok a => .ok a
  | .error _ => .error unreadable

/-- The first of the documents found. -/
def readFirst (decode : Decoder α) : MongoReply → Except StoreError (Option α)
  | .documents [] => .ok none
  | .documents (d :: _) => (readDocument decode d).map some
  | _ => .error failed

def readAll (decode : Decoder α) : MongoReply → Except StoreError (List α)
  | .documents documents => documents.mapM (readDocument decode)
  | _ => .error failed

/-- The document that was changed, if one was found. -/
def readChanged (decode : Decoder α) : MongoReply → Except StoreError (Option α)
  | .value none => .ok none
  | .value (some d) => (readDocument decode d).map some
  | _ => .error failed

/-- A change whose condition failed, because no document was found or an index refused it. -/
def readGuarded (decode : Decoder α) (reply : MongoReply) : Except StoreError α :=
  if isDuplicate reply then .error .conditionFailed
  else
    match readChanged decode reply with
    | .ok (some a) => .ok a
    | .ok none => .error .conditionFailed
    | .error e => .error e

def readWritten : MongoReply → Except StoreError Unit
  | .acknowledged => .ok ()
  | _ => .error failed

/-- An insertion fails its condition when an index refuses it. -/
def readInserted (reply : MongoReply) : Except StoreError Unit :=
  if isDuplicate reply then .error .conditionFailed else readWritten reply

/-- Any reply but a failure of the whole command shows that the database is there. -/
def readPing : MongoReply → Except StoreError Unit
  | .commandError _ | .closed => .error failed
  | .acknowledged | .documents _ | .value _ | .writeError _ | .writeConcernError _ => .ok ()

def findOne (collection : Collection) (filter : Filter) (decode : Decoder α) : Plan (Option α) :=
  .send (.find collection filter none) (readFirst decode)

/-- The number of rows asked for: one more than a page holds, as a signed word. -/
def rowLimit (pageSize : Nat) : Int :=
  ((pageSize : Int) + 1).bmod Word.count

/-- The page of the rows that were sent. A row beyond the page tells that there is a next one; where
it begins is a word. -/
def pageOf (pageSize offset : Nat) (rows : List α) : Page α :=
  if pageSize < rows.length then
    ⟨rows.take pageSize, some (PageToken.encode ((offset + pageSize) % Word.count))⟩
  else ⟨rows, none⟩

def findPage (s : MongoStore) (collection : Collection) (filter : Filter) (sort : Sorting)
    (decode : Decoder α) (page : Option String) : Plan (Page α) :=
  match PageToken.decode page with
  | .error e => .refuse e
  | .ok offset =>
    if Word.greatestSigned < offset then .refuse unsendable
    else
      .send (.find collection filter (some ⟨sort, offset, rowLimit s.pageSize⟩)) fun reply =>
        (readAll decode reply).map (pageOf s.pageSize offset)

/-- Writes a whole document over the one with its key. -/
def put (collection : Collection) (filter : Filter) (document : Json) : Plan Unit :=
  if storable document then .send (.replace collection filter document) readWritten
  else .refuse unsendable

def byId (id : String) : Filter := [("id", .string id)]

/-- The path to the target group of a deployment. -/
def boundTo : String := "target_group_assignment.target_group_id"

/-- The assignment is written into new deployments only, and only as null. -/
def upsertDeployment (d : Deployment) (guard : AssignmentGuard) : MongoCommand :=
  let set :=
    [("provider", d.provider.toJson), ("function_url", Json.ofOption .string d.functionUrl),
      ("diagnostics", .array (d.diagnostics.map Diagnostic.toJson))]
  match guard with
  | .any =>
    .findAndModify .deployments (byId d.id) ⟨set, [("target_group_assignment", .null)]⟩ (some true)
  | .unassigned =>
    .findAndModify .deployments (byId d.id ++ [("target_group_assignment", .null)]) ⟨set, []⟩
      (some true)
  | .assignedTo g =>
    .findAndModify .deployments (byId d.id ++ [(boundTo, .string g)]) ⟨set, []⟩ (some false)

def assignDeployment (id : String) (provider : Provider) (assignment : Assignment) :
    MongoCommand :=
  .findAndModify .deployments
    (byId id ++ [("provider", provider.toJson), ("target_group_assignment", .null)])
    ⟨[("target_group_assignment", assignment.toJson)], []⟩ none

def clearAssignment (id targetGroupId : String) : MongoCommand :=
  .findAndModify .deployments (byId id ++ [(boundTo, .string targetGroupId)])
    ⟨[("target_group_assignment", .null)], []⟩ none

/-- An assignment that is not there to be cleared fails the condition. -/
def readCleared (reply : MongoReply) : Except StoreError Deployment :=
  match readChanged Deployment.read reply with
  | .ok (some d) => .ok d
  | .ok none => .error .conditionFailed
  | .error e => .error e

/-- A preflight that a user may still use. -/
def usable (id userId : String) : Filter :=
  byId id ++ [("user_id", .string userId), ("consumed_at", .null)]

def argKey (providerId argId : String) : Filter :=
  [("provider_id", .string providerId), ("arg_id", .string argId)]

def newestFirst : Sorting := [("created_at", -1), ("id", 1)]

def inIdOrder : Sorting := [("id", 1)]

def plan (s : MongoStore) : (c : StoreCall) → Plan c.Value
  | .healthCheck => .send .ping readPing
  | .getTargetGroup id => findOne .targetGroups (byId id) TargetGroup.read
  | .listTargetGroups page => s.findPage .targetGroups [] inIdOrder TargetGroup.read page
  | .insertTargetGroup group =>
    if storable group.toJson then .send (.insert .targetGroups group.toJson) readInserted
    else .refuse unsendable
  | .getDeployment id => findOne .deployments (byId id) Deployment.read
  | .upsertDeployment d guard =>
    .send (upsertDeployment d guard) (readGuarded Deployment.read)
  | .findDeployment g => findOne .deployments [(boundTo, .string g)] Deployment.read
  | .assignDeployment id provider assignment =>
    .send (assignDeployment id provider assignment) (readGuarded Deployment.read)
  | .clearAssignment id g => .send (clearAssignment id g) readCleared
  | .putPreflight p => put .preflights (byId p.id) p.toJson
  | .getPreflight id userId => findOne .preflights (usable id userId) Preflight.read
  | .claimPreflight id userId now =>
    .send (.findAndModify .preflights (usable id userId) ⟨[("consumed_at", now.toDate)], []⟩ none)
      (readChanged Preflight.read)
  | .putRequest r => put .requests (byId r.id) r.toJson
  | .getRequest id => findOne .requests (byId id) AccessRequest.read
  | .listRequestsFor userId page =>
    s.findPage .requests [("requested_by.id", .string userId)] newestFirst AccessRequest.read page
  | .listRequests page => s.findPage .requests [] newestFirst AccessRequest.read page
  | .getTarget id => findOne .targets (byId id) Target.read
  | .putTarget t => put .targets (byId t.id) t.toJson
  | .listTargets page => s.findPage .targets [] inIdOrder Target.read page
  | .getArgOptions providerId argId =>
    findOne .argOptions (argKey providerId argId) CachedArgOptions.read
  | .putArgOptions o => put .argOptions (argKey o.providerId o.argId) o.toJson

/-- The commands that make the indexes, in order. Ids are unique, at most one deployment is bound to
a target group, and options are unique for their key. -/
def indexCommands : List MongoCommand :=
  [.createIndexes .targetGroups [idIndex "target_group_id_idx"],
    .createIndexes .preflights [idIndex "preflight_id_idx"],
    .createIndexes .requests [idIndex "request_id_idx"],
    .createIndexes .targets [idIndex "cached_target_id_idx"],
    .createIndexes .deployments
      [idIndex "deployment_id_idx",
        ⟨"deployment_target_group_idx", [(boundTo, 1)], true, some boundTo⟩],
    .createIndexes .requests
      [⟨"request_user_created_idx", [("requested_by.id", 1), ("created_at", -1)], false, none⟩],
    .createIndexes .argOptions
      [⟨"arg_options_key_idx", [("provider_id", 1), ("arg_id", 1)], true, none⟩]]
where
  idIndex (name : String) : Index := ⟨name, inIdOrder, true, none⟩

/-- An index is there unless the whole command failed or is not durable. -/
def readIndexed : MongoReply → Except StoreError Unit
  | .commandError _ | .writeConcernError _ | .closed => .error failed
  | .acknowledged | .documents _ | .value _ | .writeError _ => .ok ()

end MongoStore

end AccessGrants
