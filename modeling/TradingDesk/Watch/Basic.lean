import TradingDesk.Cache.Poller
import TradingDesk.Dashboard.Events
import TradingDesk.Dashboard.Keyboard
import TradingDesk.Feed.Link
import TradingDesk.Settings.Load
import TradingDesk.Time.Duration

/-! A watch over the portfolios: the dashboard and the session, the cache and the calls that are out, tasks
that wait to begin, results that wait to be looked at, and the one poller of the held symbols. -/

namespace TradingDesk

inductive Query where
  | portfolios
  | tickers (symbols : List String)
  deriving DecidableEq

namespace Query

def portfoliosKey : Key := ⟨["portfolios"]⟩

def tickersKey : Key := ⟨["tickers"]⟩

def key : Query → Key
  | .portfolios => portfoliosKey
  | .tickers symbols => tickersKey.extend (String.intercalate "," symbols)

end Query

inductive Cached where
  | portfolios (list : List Portfolio)
  | tickers (list : List Ticker)

namespace Cached

def portfolios? : Cached → Option (List Portfolio)
  | .portfolios list => some list
  | _ => none

def tickers? : Cached → Option (List Ticker)
  | .tickers list => some list
  | _ => none

def arePortfolios (c : Cached) : Bool := c.portfolios?.isSome
def areTickers (c : Cached) : Bool := c.tickers?.isSome

end Cached

inductive BackgroundTask where
  | load (mode : FetchMode)
  | remove (id : Int64)
  | poll
  deriving DecidableEq

/-- A call to the backend that has not been answered: an attempt of a request of the cache, or a
removal. -/
inductive OpenCall where
  | query (request attempt : Nat)
  | removal (id : Int64)
  deriving DecidableEq

/-- A result of the background that waits to be looked at. -/
inductive Notice where
  | portfolios (state : QueryState (List Portfolio))
  | removed (id : Int64) (failure : Option String)

/-- `interval` is the time between two polls in nanoseconds, `now` the time in milliseconds. `queries`
tells what each request of the cache asks for, `arrived` are the answers to its attempts. -/
structure Watch where
  dashboard : Dashboard := {}
  session : Session := Session.new 0 0
  preferences : Preferences := {}
  headless : Bool := true
  interval : Nat
  now : Nat := 0
  feedOptions : FeedOptions := { initialDelay := 0, maxDelay := 0 }
  feed : Feed := Feed.new feedOptions
  traffic : Traffic Cached := {}
  queries : List (Nat × Query) := []
  arrived : List ((Nat × Nat) × Outcome Cached) := []
  tasks : List BackgroundTask := []
  calls : List OpenCall := []
  loads : Nat := 0
  notices : List Notice := []
  poller : Option (Poller Cached) := none
  polledSymbols : List String := []
  log : List LogLine := []
  ended : Bool := false

namespace Watch

def note (lines : List LogLine) (w : Watch) : Watch :=
  { w with log := w.log ++ lines }

def spawn (t : BackgroundTask) (w : Watch) : Watch :=
  { w with tasks := w.tasks ++ [t] }

def isFetching (w : Watch) : Bool :=
  w.traffic.cache.isFetching Query.portfoliosKey

def invalidate (start : Key) (w : Watch) : Watch × Nat :=
  let (cache, n) := w.traffic.cache.invalidate start
  ({ w with traffic := { w.traffic with cache } }, n)

/-- The poller stops. Its request stays with the slot, and nobody waits for it. -/
def dropPoller (w : Watch) : Watch :=
  { w with
    poller := none
    polledSymbols := []
    tasks := w.tasks.filter (· ≠ .poll)
    traffic := w.traffic.drop Poller.callerName }

def startPoller (symbols : List String) (w : Watch) : Watch :=
  let w := w.dropPoller
  let key := (Query.tickers symbols).key
  let period := w.interval / Duration.millisecond
  let poller := Poller.new Cached.areTickers key period w.traffic.cache
  let line := "Polling " ++ key.shown ++ " every " ++ Duration.text w.interval
  ({ w with poller := some poller, polledSymbols := symbols }.spawn .poll).note [.info line]

/-- Keeps one poller of exactly the held symbols, and none when nothing is held. -/
def syncPoller (w : Watch) : Watch :=
  let symbols := w.dashboard.held
  if symbols.isEmpty then w.dropPoller
  else if w.poller.isSome && w.polledSymbols = symbols then w
  else w.startPoller symbols

/-- What the poller has published goes to the dashboard, with the last good tickers of its key. -/
def showPoll (p : Poller Cached) (w : Watch) : Watch :=
  let lastGood := (w.traffic.cache.lastData Cached.areTickers p.key).bind Cached.tickers?
  { w with
    poller := some { p with unseen := false }
    dashboard := w.dashboard.setTickers (p.published.narrow Cached.tickers?) lastGood }

def hasPublication (w : Watch) : Bool :=
  w.poller.any Poller.unseen

end Watch
end TradingDesk
