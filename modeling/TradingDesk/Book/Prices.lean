import TradingDesk.Payload.Market
import TradingDesk.Payload.Portfolio
import TradingDesk.Table

/-! One price for each symbol, from the last poll and from the stream. A streamed price is taken before
a polled one, whatever their times are. -/

namespace TradingDesk

abbrev Prices := Table Float

namespace Prices

/-- Of two tickers of a symbol the last one counts. -/
def ofTickers (tickers : List Ticker) : Prices :=
  Table.ofList (tickers.map fun t => (t.symbol, t.price))

/-- Both maps in one; where they overlap the second one counts. -/
def merge (polled streamed : Prices) : Prices :=
  streamed.foldl (fun prices (symbol, price) => prices.put symbol price) (Table.ofList polled)

end Prices

abbrev TickerStream := Table Ticker

namespace TickerStream

def apply (t : Ticker) (stream : TickerStream) : TickerStream :=
  stream.put t.symbol t

def tickers (stream : TickerStream) : List Ticker :=
  stream.map Prod.snd

end TickerStream

namespace Prices

def reconcile (polled : List Ticker) (stream : TickerStream) : Prices :=
  merge (ofTickers polled) (ofTickers stream.tickers)

/-- The symbols held without a price, in the order of the holdings. -/
def unpriced (holdings : List Holding) (prices : Prices) : List String :=
  (holdings.filter fun h => !prices.has h.symbol).map (·.symbol)

def unavailable (holdings : List Holding) (prices : Prices) : Bool :=
  holdings.any fun h => !prices.has h.symbol

end Prices
end TradingDesk
