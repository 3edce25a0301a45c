import TradingDesk.Book.Held
import TradingDesk.Book.Valuation
import TradingDesk.Desk.Basic
import TradingDesk.Form.Removal
import TradingDesk.Money

/-! Portfolios at the desk: listed, shown with their holdings, made and removed. -/

namespace TradingDesk
namespace Desk

open Text Money

/-- The latest prices of what is held. When there are none, holdings count at what they cost. -/
def polledPrices (portfolios : List Portfolio) : Action Prices := do
  match ← askTickers (heldSymbols portfolios) with
  | .ok tickers => return Prices.ofTickers tickers
  | .error f =>
    note (.warn ("Ticker fetch failed: " ++ f.message))
    return []

def portfolioRow (prices : Prices) (p : Portfolio) : String :=
  let m := metrics p.holdings prices
  "#" ++ padRight 4 (Endpoint.shownId p.id) ++ " " ++ padRight 24 p.name ++ " value "
    ++ padLeft 16 (usd m.totalValue) ++ "  P&L " ++ padLeft 14 (signedUsd m.unrealizedPnl)
    ++ " (" ++ percent m.pnlPercent ++ ")"

def totalRow (m : Metrics) : String :=
  "Total value " ++ usd m.totalValue ++ "  P&L " ++ signedUsd m.unrealizedPnl
    ++ " (" ++ percent m.pnlPercent ++ ")"

def listPortfolios : Action Unit := do
  let portfolios ← ask .portfolios
  let prices ← polledPrices portfolios
  for p in portfolios do
    line (portfolioRow prices p)
  line (totalRow (aggregate portfolios prices))

def holdingRow (c : AssetClass) (r : Row) : String :=
  let price := (r.price.map fun x => Money.price x c).getD "—"
  "  " ++ padRight 12 r.symbol ++ " " ++ padLeft 14 (Number.fixed 6 r.amount) ++ " @ " ++ padLeft 14 price
    ++ "  value " ++ padLeft 16 (usd r.value) ++ "  P&L " ++ padLeft 14 (signedUsd r.pnl)
    ++ " (" ++ percent r.pnlPercent ++ ")"

def showPortfolio (c : AssetClass) (id : Int64) : Action Unit := do
  let p ← find (.noPortfolio id) (.portfolio id)
  let prices ← polledPrices [p]
  line ("#" ++ Endpoint.shownId p.id ++ " " ++ p.name ++ " (" ++ p.exchangeId ++ ")")
  for r in rows p.holdings prices do
    line (holdingRow c r)
  let missing := prices.unpriced p.holdings
  if !missing.isEmpty then
    line ("Live prices unavailable for " ++ String.intercalate ", " missing ++ " – valued at cost.")

def createPortfolio (name : String) (exchangeId : Option String) : Action Unit := do
  if isBlankText name then throw .blankName
  let p ← ask (.createPortfolio ⟨trim name, exchangeId⟩)
  line ("Created portfolio #" ++ Endpoint.shownId p.id ++ " " ++ p.name)

def agrees (answer : String) : Bool :=
  trim answer ∈ ["y", "Y", "yes"]

/-- Asks, unless it is sure already. -/
def agreed (sure : Bool) (question : String) : Action Bool := do
  if sure then return true
  write question
  return agrees (← readLine)

def deletePortfolio (id : Int64) (sure : Bool) : Action Unit := do
  let shown := "portfolio #" ++ Endpoint.shownId id
  let removal := Removal.idle.request id
  let wanted ← agreed sure ("Delete " ++ shown ++ "? [y/N] ")
  let removal := if wanted then removal else removal.cancel
  match removal.confirm.1 with
  | some id =>
    ask (.deletePortfolio id)
    line ("Deleted " ++ shown)
  | none => line "Cancelled"

end Desk
end TradingDesk
