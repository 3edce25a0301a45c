import TradingDesk.Desk.Portfolios
import TradingDesk.Form.OrderDraft
import TradingDesk.Time.Civil

/-! Orders and market data at the desk. -/

namespace TradingDesk
namespace Desk

open Text Money

def columns (cells : List String) : String :=
  String.intercalate " " cells

/-- An order without a price, or with an empty one, is a market order. -/
def placeOrder (d : OrderDraft) : Action Unit := do
  let order ← match d.build with
    | .ok order => pure order
    | .error r => throw (.rejection r)
  let o ← ask (.createOrder order)
  let id := "Order #" ++ Endpoint.shownId o.id
  note (.info (id ++ " submitted"))
  line (id ++ ": " ++ o.side.name ++ " " ++ Number.plain o.amount ++ " " ++ o.symbol
    ++ " (" ++ o.kind ++ ") – " ++ o.status)

def orderCells (id symbol side kind amount price status : String) : String :=
  columns [padRight 6 id, padRight 12 symbol, padRight 5 side, padRight 7 kind, padLeft 12 amount,
    padLeft 14 price, padRight 10 status]

def orderRow (c : AssetClass) (o : Order) : String :=
  orderCells (Endpoint.shownId o.id) o.symbol o.side.name o.kind (Number.fixed 6 o.amount)
    (Money.price o.price c) o.status

def listOrders (c : AssetClass) : Action Unit := do
  let orders ← ask .orders
  line (orderCells "ID" "Symbol" "Side" "Type" "Amount" "Price" "Status")
  for o in orders do
    line (orderRow c o)

def showOrder (c : AssetClass) (id : Int64) : Action Unit := do
  let o ← find (.noOrder id) (.order id)
  line (orderRow c o)
  line ("  filled " ++ Number.fixed 6 o.filled ++ "  exchange " ++ o.exchangeId ++ " " ++ o.exchangeOrderId)
  line ("  created " ++ o.createdAt ++ "  updated " ++ o.updatedAt)

def barCells (time opening high low closing volume : String) : String :=
  columns (padRight 20 time :: [opening, high, low, closing].map (padLeft 14) ++ [padLeft 8 volume])

def barRow (c : AssetClass) (b : Bar) : String :=
  barCells (Moment.text b.timestamp.toInt) (Money.price b.opening c) (Money.price b.high c)
    (Money.price b.low c) (Money.price b.closing c) (Money.volume b.volume)

/-- From the first to the last close, in percent; a first close of zero gives none. -/
def closeToClose (bars : List Bar) : Option Float := do
  let first := (← bars.head?).closing
  let last := (← bars.getLast?).closing
  if first == 0 then none else some ((last - first) / first * 100)

def showBars (c : AssetClass) (symbol timeframe : String) (limit : Nat) : Action Unit := do
  let bars ← ask (.bars symbol timeframe limit)
  line (barCells "Time" "Open" "High" "Low" "Close" "Volume")
  for b in bars do
    line (barRow c b)
  match closeToClose bars with
  | some change =>
    line (symbol ++ " " ++ timeframe ++ " over " ++ toString bars.length ++ " bars: " ++ percent change)
  | none => pure ()

def tickerRow (c : AssetClass) (t : Ticker) : String :=
  columns [padRight 12 t.symbol, padLeft 16 (Money.price t.price c),
    padLeft 8 (Number.signedFixed 2 t.change) ++ "%", "vol", Money.volume t.volume]

def listTickers (c : AssetClass) : Action Unit := do
  let portfolios ← ask .portfolios
  for t in ← orFail (← askTickers (heldSymbols portfolios)) do
    line (tickerRow c t)

def listExchanges : Action Unit := do
  for x in ← ask .exchanges do
    line (columns [padRight 12 x.id, x.name])

def headlines : List (String × String) :=
  [("Portfolios", "portfolio.count"), ("Total value", "portfolio.total_value"),
    ("Unrealized P&L", "portfolio.unrealized_pnl"), ("Trades", "trading.total_trades"),
    ("Win rate %", "trading.win_rate"), ("Daily P&L", "risk.daily_pnl"), ("Drawdown", "risk.drawdown")]

def showHeadline (c : AssetClass) (whole : Bool) : Action Unit := do
  let h ← ask (.headline (some c))
  if whole then line (Json.pretty 0 h.value)
  else
    line ("KPIs (" ++ c.name ++ ")")
    for (label, path) in headlines do
      match h.number? path with
      | some x => line ("  " ++ padRight 16 label ++ " " ++ Number.plain x)
      | none => pure ()

end Desk
end TradingDesk
