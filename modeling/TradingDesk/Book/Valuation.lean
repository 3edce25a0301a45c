import TradingDesk.Book.Prices

/-! What holdings are worth at a price map. A holding without a price counts at what it was bought
for. -/

namespace TradingDesk

structure Metrics where
  totalCost : Float
  totalValue : Float
  unrealizedPnl : Float
  pnlPercent : Float

structure Row where
  symbol : String
  amount : Float
  avgBuyPrice : Float
  price : Option Float
  cost : Float
  value : Float
  pnl : Float
  pnlPercent : Float

/-- In percent of the cost, and zero when there is no cost. -/
def percentOf (pnl cost : Float) : Float :=
  if cost == 0 then 0 else pnl / cost * 100

def Metrics.ofTotals (cost value : Float) : Metrics :=
  let pnl := value - cost
  ⟨cost, value, pnl, percentOf pnl cost⟩

def negativeZero : Float := -0.0

/-- From the left, beginning with negative zero, which leaves every number as it is. -/
def sum (xs : List Float) : Float :=
  xs.foldl (· + ·) negativeZero

namespace Holding

/-- The price of the holding's symbol, or the price it was bought at. -/
def mark (prices : Prices) (h : Holding) : Float :=
  (prices.get? h.symbol).getD h.avgBuyPrice

def row (prices : Prices) (h : Holding) : Row :=
  let price := prices.get? h.symbol
  let value := h.amount * price.getD h.avgBuyPrice
  let pnl := value - h.cost
  ⟨h.symbol, h.amount, h.avgBuyPrice, price, h.cost, value, pnl, percentOf pnl h.cost⟩

end Holding

def Row.priced (r : Row) : Bool :=
  r.price.isSome

def rows (holdings : List Holding) (prices : Prices) : List Row :=
  holdings.map (Holding.row prices)

def metrics (holdings : List Holding) (prices : Prices) : Metrics :=
  .ofTotals (sum (holdings.map Holding.cost)) (sum (holdings.map fun h => h.amount * h.mark prices))

def aggregate (portfolios : List Portfolio) (prices : Prices) : Metrics :=
  let total := portfolios.foldl
    (fun (cost, value) p =>
      let m := metrics p.holdings prices
      (cost + m.totalCost, value + m.totalValue)) ((0 : Float), (0 : Float))
  .ofTotals total.1 total.2

end TradingDesk
