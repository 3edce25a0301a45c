import TradingDesk.Watch.Basic

/-! The background of a watch: tasks begin, calls are answered, and whoever waits for a request goes on. -/

namespace TradingDesk
namespace Watch

def world (w : Watch) : Traffic.World Cached := fun request attempt _ =>
  w.arrived.lookup (request, attempt)

/-- The traffic has gone on for a query. A new request asks what the query asks, and every attempt that it
made is a call that is out. -/
def moved (q : Query) (t : Traffic Cached) (lines : List LogLine) (w : Watch) : Watch :=
  let request := w.traffic.cache.nextRequest
  let isNew := request < t.cache.nextRequest
  let calls := (w.traffic.asked t).map fun (id, _) => OpenCall.query id ((t.request id).calls - 1)
  { w with
    traffic := t
    queries := if isNew then (request, q) :: w.queries else w.queries
    calls := w.calls ++ calls }.note lines

def notify (n : Notice) (w : Watch) : Watch :=
  { w with notices := w.notices ++ [n] }

def told (polled : Traffic.Polled Cached) (w : Watch) : Watch :=
  match polled.state with
  | some state => w.notify (.portfolios (state.narrow Cached.portfolios?))
  | none => w

def beginLoad (mode : FetchMode) (w : Watch) : Watch :=
  let name := "load " ++ toString w.loads
  let (t, polled) :=
    w.traffic.start w.world w.now name mode Cached.arePortfolios Query.portfoliosKey
  ({ w with loads := w.loads + 1 }.moved .portfolios t polled.lines).told polled

def runPoller (w : Watch) : Watch :=
  match w.poller with
  | none => w
  | some p =>
    match p.advance w.world w.now w.traffic with
    | none => w
    | some (p, t, lines) => { w.moved (.tickers w.polledSymbols) t lines with poller := some p }

def beginTask (w : Watch) : Watch :=
  match w.tasks with
  | [] => w
  | t :: tasks =>
    let w := { w with tasks }
    match t with
    | .load mode => w.beginLoad mode
    | .remove id => { w with calls := w.calls ++ [.removal id] }
    | .poll => w.runPoller

def wake (name : String) (w : Watch) : Watch :=
  if name = Poller.callerName then w.runPoller
  else match w.traffic.poll w.world w.now name with
    | some (t, polled) => (w.moved .portfolios t polled.lines).told polled
    | none => w

/-- Who waits for a request, in the order of coming. -/
def callersOf (request : Nat) (w : Watch) : List String :=
  ((w.traffic.callers.filter fun (_, c) => c.request = request).map Prod.fst).reverse

def answer (place : Nat) (o : Outcome Cached) (w : Watch) : Watch :=
  match w.calls[place]? with
  | some (.query request attempt) =>
    let w := { w with
      calls := w.calls.eraseIdx place
      arrived := ((request, attempt), o) :: w.arrived }
    (w.callersOf request).foldl (fun w name => w.wake name) w
  | _ => w

/-- An open removal is answered. After a successful one the list of portfolios is out of date. -/
def answerRemoval (place : Nat) (o : Outcome Unit) (w : Watch) : Watch :=
  match w.calls[place]? with
  | some (.removal id) =>
    let done := w.traffic.cache.mutate o [Query.portfoliosKey]
    let failure := match done.2 with
      | .ok _ => none
      | .error e => some (Failure.shown (some e.message) Failure.fallbackMessage)
    { w with
      calls := w.calls.eraseIdx place
      traffic := { w.traffic with cache := done.1 } }.notify (.removed id failure)
  | _ => w

end Watch
end TradingDesk
