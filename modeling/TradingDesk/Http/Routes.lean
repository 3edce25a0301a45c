import TradingDesk.Http.Message

/-! Backends whose replies are written down beforehand. -/

namespace TradingDesk
namespace Backend

/-- One reply for each request, whatever it asks; there is none after the last one. -/
def inOrder (replies : List (Option Reply)) : Backend := fun past _ =>
  (replies[past.length]?).join

def route (r : Request) : String :=
  String.ofList (r.line.toList.takeWhile (· != '?'))

/-- The replies of each route in their order; the last one is given again and again. -/
def ofRoutes (routes : List (String × List (Option Reply))) : Backend := fun past r =>
  match routes.lookup (route r) with
  | none => none
  | some replies =>
    let n := (past.filter fun q => route q == route r).length
    (replies[n]?.or replies.getLast?).join

def reachedAt (host : String) (b : Backend) : Backend := fun past r =>
  if r.url.host = host then b (past.filter fun q => q.url.host = host) r else none

end Backend
end TradingDesk
