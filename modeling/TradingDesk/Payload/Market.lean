import TradingDesk.Payload.Choice

/-! Market data: ticker snapshots, candles, exchanges, and the headline numbers of the backend. -/

namespace TradingDesk

structure Ticker where
  symbol : String
  price : Float
  volume : Float
  change : Float
  high : Float
  low : Float
  timestamp : String
  deriving DecidableEq

/-- One candle; its time is in milliseconds since the epoch. -/
structure Bar where
  timestamp : Int64
  opening : Float
  high : Float
  low : Float
  closing : Float
  volume : Float
  deriving DecidableEq

structure Exchange where
  id : String
  name : String
  countries : List String
  hasTickers : Bool
  hasBars : Bool
  deriving DecidableEq

/-- Headline numbers. Their shape varies with the asset class, so they stay a JSON value. -/
structure Headline where
  value : Json

open Json Json.Record

namespace Ticker

def record : Record Ticker :=
  .pure Ticker.mk <*> required "symbol" .text <*> required "price" .double
    <*> default "volume_24h" .double 0 <*> default "change_24h" .double 0
    <*> default "high_24h" .double 0 <*> default "low_24h" .double 0 <*> default "timestamp" .text ""

def decoder : Decoder Ticker := record.decoder "TickerSnapshot"

def toJson (t : Ticker) : Json :=
  .object [("symbol", .text t.symbol), ("price", .double t.price), ("volume_24h", .double t.volume),
    ("change_24h", .double t.change), ("high_24h", .double t.high), ("low_24h", .double t.low),
    ("timestamp", .text t.timestamp)]

end Ticker

namespace Bar

def record : Record Bar :=
  .pure Bar.mk <*> required "timestamp" .int64 <*> required "open" .double
    <*> required "high" .double <*> required "low" .double <*> required "close" .double
    <*> default "volume" .double 0

def decoder : Decoder Bar := record.decoder "OhlcvBar"

def toJson (b : Bar) : Json :=
  .object [("timestamp", .integer b.timestamp.toInt), ("open", .double b.opening),
    ("high", .double b.high), ("low", .double b.low), ("close", .double b.closing),
    ("volume", .double b.volume)]

end Bar

namespace Exchange

def record : Record Exchange :=
  .pure Exchange.mk <*> required "id" .text <*> required "name" .text
    <*> default "countries" (.list .text) [] <*> default "has_fetch_tickers" .bool false
    <*> default "has_fetch_ohlcv" .bool false

def decoder : Decoder Exchange := record.decoder "ExchangeInfo"

def toJson (x : Exchange) : Json :=
  .object [("id", .text x.id), ("name", .text x.name), ("countries", .list (x.countries.map .text)),
    ("has_fetch_tickers", .bool x.hasTickers), ("has_fetch_ohlcv", .bool x.hasBars)]

end Exchange

namespace Headline

def decoder : Decoder Headline := fun p n => (Decoder.value p n).map Headline.mk

def toJson (h : Headline) : Json := h.value

/-- The number at a path of keys parted by points; only objects have keys. -/
def number? (h : Headline) (path : String) : Option Float :=
  ((path.splitOn ".").foldl (fun v key => v.bind (member? key)) (some h.value)).bind Json.number?

end Headline
end TradingDesk
