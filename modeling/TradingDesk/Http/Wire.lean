import TradingDesk.Http.Message
import TradingDesk.Json.Document
import TradingDesk.Json.Printer

/-! How requests and replies are written down, a line for each. Whoever stands between the program and a
backend reads the one and writes the other. -/

namespace TradingDesk

def Request.toLine (r : Request) : String :=
  (Json.object ([("method", .text r.verb.name), ("url", .text r.url.text)]
    ++ Json.some? "authorization" (r.authorization?.map .text)
    ++ Json.some? "content_type" (r.contentType?.map .text)
    ++ Json.some? "body" (r.body.map .text))).write

/-- A line without a status tells that there was no reply. -/
def Reply.ofLine (line : String) : Option Reply := do
  let v ← (Json.parse line).toOption
  let .integer status ← v.member? "status" | none
  return {
    status := status.toNat
    location := (v.member? "location").bind Json.text?
    body := ((v.member? "body").bind Json.text?).getD ""
    cut := ((v.member? "cut").bind Json.bool?).getD false }

end TradingDesk
