import TradingDesk.Http.Message
import TradingDesk.Json.Decoder
import TradingDesk.Json.Printer

/-! Calls of the backend: an endpoint tells what is sent and how the reply is read, a client adds the base
address and the token. -/

namespace TradingDesk

/-- How a reply is taken: as a payload, or by its status alone. -/
structure Endpoint (α : Type) where
  verb : Verb
  path : String
  query : List (String × String) := []
  body : Option Json := none
  read : Reply → Except Failure α

structure Client where
  baseUrl : String
  token : Option String := none

namespace Reply

/-- The first of three members that is a text, or a short body as it is. -/
def detail? (body : String) : Option String :=
  let told := do
    let v ← (Json.parse body).toOption
    ["detail", "error", "message"].findSome? fun key => (v.member? key).bind Json.text?
  let trimmed := Text.trim body
  let plain := if trimmed != "" && trimmed.utf8ByteSize ≤ 200 then some trimmed else none
  told.or plain

/-- What a failing status is reported as. A body that was cut says nothing. -/
def failure (r : Reply) : Failure :=
  let reason := (reasons.lookup r.status).getD "request failed"
  .status r.status ((detail? (if r.cut then "" else r.body)).getD reason)

def confirm (r : Reply) : Except Failure Unit :=
  if r.isSuccess then .ok () else .error r.failure

def decode (d : Json.Decoder α) (r : Reply) : Except Failure α :=
  if !r.isSuccess then .error r.failure
  else if r.cut then .error (.payload "error decoding response body")
  else match d.ofText r.body with
    | .ok a => .ok a
    | .error e => .error (.payload e.message)

end Reply

namespace Endpoint

def fetch (path : String) (query : List (String × String)) (d : Json.Decoder α) : Endpoint α :=
  { verb := .get, path, query, read := Reply.decode d }

def send (verb : Verb) (path : String) (body : Option Json) (d : Json.Decoder α) : Endpoint α :=
  { verb, path, body, read := Reply.decode d }

end Endpoint

namespace Client

/-- The base address without slashes at its end. -/
def new (baseUrl : String) (token : Option String) : Client :=
  ⟨String.ofList (baseUrl.toList.reverse.dropWhile (· == '/')).reverse, token⟩

def isHeaderText (token : String) : Bool :=
  token.toList.all fun c => c == '\t' || (0x20 ≤ c.toNat && c.toNat ≠ 0x7F)

/-- Nothing is sent when there is no address or the token cannot be sent. -/
def unbuildable : Failure := .network "builder error"

def request (e : Endpoint α) (c : Client) : Except Failure Request :=
  match Url.ofText (c.baseUrl ++ e.path) with
  | none => .error unbuildable
  | some url =>
    if c.token.elim true isHeaderText then
      .ok { verb := e.verb
            url := if e.verb = .get then url.withPairs e.query else url
            token := c.token
            body := e.body.map Json.write }
    else .error unbuildable

/-- Calls an endpoint. The first part is everything sent so far. -/
def call (b : Backend) (past : List Request) (e : Endpoint α) (c : Client) : List Request × Except Failure α :=
  match c.request e with
  | .error f => (past, .error f)
  | .ok r =>
    let (sent, reply) := b.exchange past r
    (sent, reply.bind e.read)

end Client
end TradingDesk
