import TradingDesk.Api.Endpoints
import TradingDesk.Watch.Loop

/-! A watch together with the backend that answers it. The background runs as far as it can, and calls are
answered one after the other in the order in which they were made. -/

namespace TradingDesk

structure Stage where
  watch : Watch
  client : Client
  backend : Backend
  sent : List Request := []

namespace Stage

def step (s : Stage) (e : WatchEvent) : Stage :=
  { s with watch := s.watch.step e }

def ask (s : Stage) : Query → Stage × Outcome Cached
  | .portfolios =>
    let (sent, r) := s.client.call s.backend s.sent .portfolios
    ({ s with sent }, r.map .portfolios)
  | .tickers symbols =>
    let (sent, r) := s.client.tickers s.backend s.sent symbols
    ({ s with sent }, r.map .tickers)

/-- The call that is out longest is answered. -/
def serve? (s : Stage) : Option Stage :=
  match s.watch.calls with
  | [] => none
  | .removal id :: _ =>
    let (sent, r) := s.client.call s.backend s.sent (.deletePortfolio id)
    some ({ s with sent }.step (.removed 0 r))
  | .query request _ :: _ =>
    let (s, o) := s.ask ((s.watch.queries.lookup request).getD .portfolios)
    some (s.step (.answered 0 o))

/-- What can be done without looking at a result: a task begins, or else a call is answered. -/
def background? (s : Stage) : Option Stage :=
  if s.watch.tasks.isEmpty then s.serve? else some (s.step .taskBegins)

def turn? (s : Stage) : Option Stage :=
  if s.watch.ended then none
  else if !s.watch.tasks.isEmpty then some (s.step .taskBegins)
  else if !s.watch.notices.isEmpty then some (s.step .noticeSeen)
  else if s.watch.hasPublication then some (s.step .pollSeen)
  else s.serve?

/-- Goes on until `done`, or until nothing can be done. -/
def goOn (next? : Stage → Option Stage) (done : Stage → Bool) : Nat → Stage → Stage
  | 0, s => s
  | fuel + 1, s => if done s then s else (next? s).elim s (goOn next? done fuel)

/-- Every task makes at most as many calls as there are attempts, and brings on at most two other
tasks. -/
def patience (s : Stage) : Nat :=
  let w := s.watch
  let waiting := w.tasks.length + w.calls.length + w.notices.length + 1
  8 * waiting * (w.traffic.cache.options.retries + 4)

def awaitNotice (s : Stage) : Stage :=
  s.goOn background? (fun s => !s.watch.notices.isEmpty) s.patience

def awaitPoll (s : Stage) : Stage :=
  s.goOn background? (fun s => s.watch.hasPublication) s.patience

def nextNotice (s : Stage) : Stage × Option Notice :=
  let s := s.awaitNotice
  match s.watch.takeNotice with
  | none => (s, none)
  | some (.portfolios q, w) =>
    ({ s with watch := { w with dashboard := w.dashboard.setPortfolios q } }, some (.portfolios q))
  | some (n, w) => ({ s with watch := w }, some n)

/-- The next publication of the poller is shown, unless none can be expected. -/
def nextPoll (s : Stage) : Option Stage := do
  let p ← s.watch.poller
  guard (p.first || p.waiting || p.unseen)
  let s := s.awaitPoll
  return { s with watch := s.watch.poller.elim s.watch fun p => s.watch.showPoll p }

def rest (s : Stage) : Stage :=
  s.goOn turn? (fun _ => false) s.patience

/-- Events one after the other, each of them with all its consequences. -/
def follow (events : List WatchEvent) (s : Stage) : Stage :=
  events.foldl (fun s e => (s.step e).rest) s.rest

end Stage
end TradingDesk
