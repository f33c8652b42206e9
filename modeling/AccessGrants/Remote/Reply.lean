import AccessGrants.Url.Basic

/-!
# AccessGrants.Remote.Reply

What other services answer over HTTP, and what they are asked for.

* `RemoteReply`     — a status and a content.
* `RemoteReply.text`— the content as text.
* `Remote.target?`  — the request target of a URL.
-/

namespace AccessGrants

structure RemoteReply where
  status : Nat
  content : String
  deriving DecidableEq, Repr, Inhabited

namespace RemoteReply

def isSuccess (r : RemoteReply) : Bool :=
  200 ≤ r.status && r.status < 300

/-- Interim replies do not answer a request. -/
def isFinal (r : RemoteReply) : Bool :=
  200 ≤ r.status

/-- Replies of two kinds never have a content. A mark of byte order is not part of the text. -/
def text (r : RemoteReply) : String :=
  if r.status = 204 ∨ r.status = 304 then ""
  else
    match r.content.toList with
    | '\uFEFF' :: rest => String.ofList rest
    | _ => r.content

def reasons : List (Nat × String) :=
  [(200, "OK"), (201, "Created"), (202, "Accepted"), (203, "Non Authoritative Information"),
    (204, "No Content"), (205, "Reset Content"), (206, "Partial Content"), (207, "Multi-Status"),
    (208, "Already Reported"), (226, "IM Used"), (300, "Multiple Choices"),
    (301, "Moved Permanently"), (302, "Found"), (303, "See Other"), (304, "Not Modified"),
    (305, "Use Proxy"), (307, "Temporary Redirect"), (308, "Permanent Redirect"),
    (400, "Bad Request"), (401, "Unauthorized"), (402, "Payment Required"), (403, "Forbidden"),
    (404, "Not Found"), (405, "Method Not Allowed"), (406, "Not Acceptable"),
    (407, "Proxy Authentication Required"), (408, "Request Timeout"), (409, "Conflict"),
    (410, "Gone"), (411, "Length Required"), (412, "Precondition Failed"),
    (413, "Payload Too Large"), (414, "URI Too Long"), (415, "Unsupported Media Type"),
    (416, "Range Not Satisfiable"), (417, "Expectation Failed"), (418, "I'm a teapot"),
    (421, "Misdirected Request"), (422, "Unprocessable Entity"), (423, "Locked"),
    (424, "Failed Dependency"), (425, "Too Early"), (426, "Upgrade Required"),
    (428, "Precondition Required"), (429, "Too Many Requests"),
    (431, "Request Header Fields Too Large"), (451, "Unavailable For Legal Reasons"),
    (500, "Internal Server Error"), (501, "Not Implemented"), (502, "Bad Gateway"),
    (503, "Service Unavailable"), (504, "Gateway Timeout"), (505, "HTTP Version Not Supported"),
    (506, "Variant Also Negotiates"), (507, "Insufficient Storage"), (508, "Loop Detected"),
    (510, "Not Extended"), (511, "Network Authentication Required")]

/-- The number of a status and its phrase. -/
def statusText (status : Nat) : String :=
  Nat.repr status ++ " " ++ (reasons.lookup status).getD "<unknown status code>"

end RemoteReply

namespace Remote

/-- A base URL without the slashes at its end. -/
def trimmedBase (baseUrl : String) : String :=
  String.ofList (baseUrl.toList.reverse.dropWhile (· = '/')).reverse

/-- What is asked for at a URL; none when no request can be sent there. -/
def target? (url : String) : Option String :=
  ((Url.parse? url).filter fun u => u.scheme ∈ ["http", "https"]).map (·.requestTarget)

/-- The reply to a request, if there is one. -/
def received? (reply : Option RemoteReply) : Option RemoteReply :=
  reply.filter (·.isFinal)

end Remote

end AccessGrants
