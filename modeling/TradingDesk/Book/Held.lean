import TradingDesk.Payload.Portfolio
import TradingDesk.Table

/-! The symbols that are held over all portfolios. -/

namespace TradingDesk

/-- Each held symbol once, in ascending order. -/
def heldSymbols (portfolios : List Portfolio) : List String :=
  (Table.ofList ((portfolios.flatMap Portfolio.holdings).map fun h => (h.symbol, ()))).map Prod.fst

end TradingDesk
