import TradingDesk.Book.Held
import TradingDesk.Book.Valuation
import TradingDesk.Cache.State
import TradingDesk.Feed.Connection
import TradingDesk.Feed.Message
import TradingDesk.Form.Removal
import TradingDesk.Money
import TradingDesk.Session.Basic

/-! What the dashboard knows: the portfolios and which of them is selected, prices from polls and from the
stream, the state of the feed and of trading, a removal that waits to be confirmed, and the latest
activity. -/

namespace TradingDesk

/-- A line of the activity log and when it was added, in milliseconds. -/
structure Activity where
  time : Nat
  message : String
  deriving DecidableEq, Repr

namespace Activity

def clock (time : Nat) : String :=
  let seconds := time / 1000 % 86400
  Number.wide 2 (seconds / 3600) ++ ":" ++ Number.wide 2 (seconds / 60 % 60) ++ ":"
    ++ Number.wide 2 (seconds % 60)

def text (a : Activity) : String :=
  clock a.time ++ " " ++ a.message

end Activity

/-- `polled` are the tickers of the last good poll, `held` the symbols of the last good list of
portfolios. The activity is newest first. -/
structure Dashboard where
  portfolios : QueryState (List Portfolio) := .loading
  tickers : QueryState (List Ticker) := .loading
  polled : List Ticker := []
  held : List String := []
  stream : TickerStream := []
  connection : Connection := .initial
  refreshing : Bool := false
  halt : Option HaltStatus := none
  selected : Nat := 0
  removal : Removal := .idle
  activity : List Activity := []

namespace Dashboard

def activityLimit : Nat := 200

def record (now : Nat) (message : String) (d : Dashboard) : Dashboard :=
  { d with activity := (⟨now, message⟩ :: d.activity).take activityLimit }

/-- Shows a list of portfolios or why there is none. A list moves a selection that is beyond its end. -/
def setPortfolios (state : QueryState (List Portfolio)) (d : Dashboard) : Dashboard :=
  match state with
  | .data portfolios =>
    { d with
      portfolios := state
      selected := min d.selected (portfolios.length - 1)
      held := heldSymbols portfolios }
  | _ => { d with portfolios := state }

/-- Takes the outcome of a poll, and the tickers of the last good one if there are any. -/
def setTickers (state : QueryState (List Ticker)) (lastGood : Option (List Ticker)) (d : Dashboard) :
    Dashboard :=
  { d with tickers := state, polled := lastGood.getD d.polled }

def prices (d : Dashboard) : Prices :=
  Prices.reconcile d.polled d.stream

def shown (d : Dashboard) : List Portfolio :=
  d.portfolios.data?.getD []

def selected? (d : Dashboard) : Option Portfolio :=
  d.shown[d.selected]?

/-- The selection goes round the list; without a list it stays. -/
def selectNext (d : Dashboard) : Dashboard :=
  if d.shown.isEmpty then d else { d with selected := (d.selected + 1) % d.shown.length }

def selectPrevious (d : Dashboard) : Dashboard :=
  if d.shown.isEmpty then d
  else { d with selected := (d.selected + d.shown.length - 1) % d.shown.length }

def pricesUnavailable (d : Dashboard) : Bool :=
  let prices := d.prices
  d.shown.any fun p => prices.unavailable p.holdings

def requestRemoval (d : Dashboard) : Dashboard :=
  match d.selected? with
  | some p => { d with removal := d.removal.request p.id }
  | none => d

/-- The status of the feed's connection; a change between live and lost is recorded. -/
def setConnection (now : Nat) (c : Connection) (d : Dashboard) : Dashboard :=
  let d :=
    if c.isConnected && !d.connection.isConnected then d.record now "Live prices connected"
    else if c.isReconnecting && d.connection.isConnected then
      d.record now "Live prices disconnected – reconnecting"
    else d
  { d with connection := c }

def isHalted (d : Dashboard) : Bool :=
  d.halt.any HaltStatus.isHalted

def valuationLines (d : Dashboard) : List LogLine :=
  match d.portfolios.data? with
  | none => []
  | some portfolios =>
    let m := aggregate portfolios d.prices
    let total := toString portfolios.length ++ " portfolio(s) – value " ++ Money.usd m.totalValue
      ++ " – P&L " ++ Money.signedUsd m.unrealizedPnl ++ " (" ++ Money.percent m.pnlPercent ++ ")"
    .info total ::
      (if d.pricesUnavailable then
        [.warn "Live prices unavailable – some holdings valued at cost basis"]
      else [])

end Dashboard
end TradingDesk
