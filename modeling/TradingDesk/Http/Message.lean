import TradingDesk.Failure
import TradingDesk.Http.Url

/-! Requests and replies over HTTP, and how redirections are followed. -/

namespace TradingDesk

inductive Verb where
  | get
  | post
  | put
  | delete
  deriving DecidableEq, Repr

def Verb.name : Verb → String
  | .get => "GET"
  | .post => "POST"
  | .put => "PUT"
  | .delete => "DELETE"

structure Request where
  verb : Verb
  url : Url
  token : Option String := none
  body : Option String := none
  deriving DecidableEq

namespace Request

def line (r : Request) : String :=
  r.verb.name ++ " " ++ r.url.target

/-- The header that carries the token; blanks at its end are not sent. -/
def authorization? (r : Request) : Option String :=
  r.token.map fun token =>
    let whole := ("Bearer " ++ token).toList
    String.ofList (whole.reverse.dropWhile fun c => c == ' ' || c == '\t').reverse

def contentType? (r : Request) : Option String :=
  r.body.map fun _ => "application/json"

end Request

/-- `cut` tells that the connection ended within the body. -/
structure Reply where
  status : Nat := 200
  location : Option String := none
  body : String := ""
  cut : Bool := false

namespace Reply

def isSuccess (r : Reply) : Bool :=
  200 ≤ r.status && r.status < 300

def reasons : List (Nat × String) :=
  [(100, "Continue"), (101, "Switching Protocols"), (102, "Processing"), (200, "OK"), (201, "Created"),
    (202, "Accepted"), (203, "Non Authoritative Information"), (204, "No Content"), (205, "Reset Content"),
    (206, "Partial Content"), (207, "Multi-Status"), (208, "Already Reported"), (226, "IM Used"),
    (300, "Multiple Choices"), (301, "Moved Permanently"), (302, "Found"), (303, "See Other"),
    (304, "Not Modified"), (305, "Use Proxy"), (307, "Temporary Redirect"), (308, "Permanent Redirect"),
    (400, "Bad Request"), (401, "Unauthorized"), (402, "Payment Required"), (403, "Forbidden"),
    (404, "Not Found"), (405, "Method Not Allowed"), (406, "Not Acceptable"),
    (407, "Proxy Authentication Required"), (408, "Request Timeout"), (409, "Conflict"), (410, "Gone"),
    (411, "Length Required"), (412, "Precondition Failed"), (413, "Payload Too Large"), (414, "URI Too Long"),
    (415, "Unsupported Media Type"), (416, "Range Not Satisfiable"), (417, "Expectation Failed"),
    (418, "I'm a teapot"), (421, "Misdirected Request"), (422, "Unprocessable Entity"), (423, "Locked"),
    (424, "Failed Dependency"), (425, "Too Early"), (426, "Upgrade Required"), (428, "Precondition Required"),
    (429, "Too Many Requests"), (431, "Request Header Fields Too Large"),
    (451, "Unavailable For Legal Reasons"), (500, "Internal Server Error"), (501, "Not Implemented"),
    (502, "Bad Gateway"), (503, "Service Unavailable"), (504, "Gateway Timeout"),
    (505, "HTTP Version Not Supported"), (506, "Variant Also Negotiates"), (507, "Insufficient Storage"),
    (508, "Loop Detected"), (510, "Not Extended"), (511, "Network Authentication Required")]

/-- A reply that asks for another address: 303 wants it to be read, 301 and 302 turn a POST into a GET, 307
and 308 repeat the request. -/
def redirected? (sent : Request) (r : Reply) : Option Request := do
  let reads : Bool ← match r.status with
    | 301 | 302 => some (sent.verb == .post)
    | 303 => some true
    | 307 | 308 => some false
    | _ => none
  let url ← sent.url.resolve? (← r.location)
  let token := if url.host = sent.url.host then sent.token else none
  if reads then return { verb := .get, url, token }
  else return { sent with url, token }

end Reply

/-- The other side of the wire: its answer to a request after earlier ones. `none` hangs up. -/
abbrev Backend : Type := List Request → Request → Option Reply

namespace Backend

def maxRedirects : Nat := 10

def unanswered (url : Url) : Failure :=
  .network ("error sending request for url (" ++ url.text ++ ")")

def endlessRedirect (url : Url) : Failure :=
  .network ("error following redirect for url (" ++ url.text ++ ")")

/-- Sends a request and follows redirections. The first part is everything sent so far. -/
def follow (b : Backend) (first : Url) : (redirects : Nat) → List Request → Request →
    List Request × Except Failure Reply
  | redirects, past, r =>
    let sent := past ++ [r]
    match b past r with
    | none => (sent, .error (unanswered first))
    | some reply =>
      match reply.redirected? r with
      | none => (sent, .ok reply)
      | some next =>
        match redirects with
        | 0 => (sent, .error (endlessRedirect r.url))
        | left + 1 => follow b first left sent next

def exchange (b : Backend) (past : List Request) (r : Request) : List Request × Except Failure Reply :=
  b.follow r.url maxRedirects past r

end Backend
end TradingDesk
