import AccessGrants.Text.Blank
import AccessGrants.Text.Split
import AccessGrants.User

/-!
# AccessGrants.Http.Request

A request as it arrives, and what its headers say.

* `HttpRequest`           — method, path, query, headers and body.
* `HttpRequest.user`      — the caller that the gateway has authenticated.
* `HttpRequest.requestId?`— the id under which the caller follows the request.
-/

namespace AccessGrants

/-- A HEAD request is a GET request whose content is left out. -/
inductive Method where
  | get
  | head
  | post
  | put
  | delete
  | other (name : String)
  deriving DecidableEq, Repr, Inhabited

namespace Method

def ofName (name : String) : Method :=
  if name = "GET" then get
  else if name = "HEAD" then head
  else if name = "POST" then post
  else if name = "PUT" then put
  else if name = "DELETE" then delete
  else other name

def name : Method → String
  | get => "GET"
  | head => "HEAD"
  | post => "POST"
  | put => "PUT"
  | delete => "DELETE"
  | other name => name

end Method

structure HttpRequest where
  method : Method
  path : String
  query : String
  headers : List (String × String)
  body : String
  deriving DecidableEq, Repr, Inhabited

namespace HttpRequest

/-- A request for a target: the query follows the first question mark, and a fragment is not
sent. -/
def ofTarget (method : Method) (target : String) (headers : List (String × String))
    (body : String) : HttpRequest :=
  let sent := target.toList.takeWhile (· ≠ '#')
  let (path, query) := (Text.cut? '?' sent).getD (sent, [])
  ⟨method, String.ofList path, String.ofList query, headers, body⟩

def lowerName (name : String) : String :=
  String.ofList (name.toList.map Char.toLower)

/-- The first value of a header. Names have no case. -/
def header? (r : HttpRequest) (name : String) : Option String :=
  (r.headers.find? fun h => lowerName h.1 = lowerName name).map (·.2)

/-- A header value can be read as text when it has visible ASCII characters, spaces and tabs
only. -/
def isReadable (value : String) : Bool :=
  value.toList.all fun c => (32 ≤ c.toNat && c.toNat < 127) || c = '\t'

def readable? (r : HttpRequest) (name : String) : Option String :=
  (r.header? name).filter isReadable

/-- A trimmed header value; a blank one counts as absent. -/
def trimmed? (r : HttpRequest) (name : String) : Option (List Char) :=
  ((r.readable? name).map fun v => Text.trim v.toList).filter (· ≠ [])

def userIdHeader : String := "X-User-ID"

def userEmailHeader : String := "X-User-Email"

def userGroupsHeader : String := "X-User-Groups"

def requestIdHeader : String := "x-request-id"

/-- The names in a list with commas. -/
def groupNames (cs : List Char) : List String :=
  (((Text.split ',' cs).map Text.trim).filter (· ≠ [])).map String.ofList

/-- The caller, or the name of the header that is missing. -/
def user (r : HttpRequest) : Except String User :=
  match r.trimmed? userIdHeader with
  | none => .error userIdHeader
  | some id =>
    match r.trimmed? userEmailHeader with
    | none => .error userEmailHeader
    | some email =>
      let groups := ((r.trimmed? userGroupsHeader).map groupNames).getD []
      .ok ⟨String.ofList id, String.ofList email, Names.ofNames groups⟩

/-- The id that the caller gave, if it can be sent back. -/
def requestId? (r : HttpRequest) : Option String :=
  (r.readable? requestIdHeader).filter (· ≠ "")

end HttpRequest

end AccessGrants
